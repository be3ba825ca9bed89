import Wikidown.Command.Run
import Wikidown.Proofs.Batch.Turns

/-!
# The status of a run

What fails in a run is counted, and the status of the run is zero if the count is. Faults of single sources
and pages are counted where they come up: no step of a run passes them on.
-/

namespace Wikidown

set_option autoImplicit false

namespace Job

variable {Value Result : Type}

/-- A job that passes on no fault of a single source or page. -/
def PassesNone (job : Job Value) : Prop :=
  ∀ session fault after, job.perform session = (.error fault, after) → Batch.isReported fault = false

theorem PassesNone.bind {job : Job Value} {next : Value → Job Result} (first : job.PassesNone)
    (others : ∀ value, (next value).PassesNone) : (job >>= next).PassesNone := by
  intro session fault after failed
  rcases perform_bind_error.mp failed with here | ⟨value, between, _, later⟩
  · exact first session fault after here
  · exact others value between fault after later

/-- A job that never fails passes on nothing. -/
theorem PassesNone.of_ok {job : Job Value}
    (ok : ∀ session, ∃ value after, job.perform session = (.ok value, after)) : job.PassesNone := by
  intro session fault after failed
  obtain ⟨value, last, done⟩ := ok session
  rw [done] at failed
  simp at failed

theorem PassesNone.pure (value : Value) : (Pure.pure value : Job Value).PassesNone :=
  .of_ok fun session => ⟨value, session, rfl⟩

theorem PassesNone.tree : Job.tree.PassesNone := .of_ok fun session => ⟨session.tree, session, rfl⟩

theorem PassesNone.say (message : Text) : (Job.say message).PassesNone := .of_ok fun _ => ⟨(), _, rfl⟩

theorem PassesNone.log (level : Level) (text : Text) : (Job.log level text).PassesNone :=
  .of_ok fun _ => ⟨(), _, rfl⟩

theorem PassesNone.print (text : Text) : (Job.print text).PassesNone := .of_ok fun _ => ⟨(), _, rfl⟩

theorem PassesNone.throw {fault : Fault} (unreported : Batch.isReported fault = false) :
    (MonadExcept.throw fault : Job Value).PassesNone := by
  intro session other after failed
  rwa [← Except.error.inj (Prod.mk.inj failed).1]

theorem PassesNone.of_except {result : Except Fault Value}
    (unreported : ∀ fault, result = .error fault → Batch.isReported fault = false) :
    (Job.ofExcept result).PassesNone := by
  intro session fault after failed
  rw [perform_of_except] at failed
  exact unreported fault (Prod.mk.inj failed).1

theorem PassesNone.files {toFault : FileError → Fault}
    (unreported : ∀ error, Batch.isReported (toFault error) = false) (operation : FileJob Unit) :
    (Job.files toFault operation).PassesNone := by
  intro session fault after failed
  rw [perform_files] at failed
  rcases made : (operation.run session.tree).run with ⟨error | _, tree⟩
  · rw [made] at failed
    rw [← Except.error.inj (Prod.mk.inj failed).1, Fault.ofFileError]
    split
    · exact unreported error
    · rfl
  · simp [made, Except.mapError] at failed

end Job

namespace Batch

variable {slugOf : Text → Text} {options : Options} {directory : Text}

theorem convert_text_passes_none (options : Options) (source : Text) :
    (convertText options source).PassesNone := by
  intro session fault after failed
  obtain ⟨records, run⟩ := convert_text_perform options source session
  rw [run] at failed
  cases converted : convert options source with
  | ok markdown => simp [converted, Except.mapError] at failed
  | error inner =>
      rw [converted] at failed
      rw [← Except.error.inj (Prod.mk.inj failed).1]
      rfl

theorem convert_each_passes_none (slugOf : Text → Text) (options : Options) (directory : Text)
    (paths : List Text) (index : Page.Index) :
    (convertEach slugOf options directory paths index).PassesNone := by
  induction paths generalizing index with
  | nil => exact .pure _
  | cons path rest ih =>
      intro session fault after failed
      rcases turn : (convertFile slugOf options directory path).perform session with ⟨result, left⟩
      cases result with
      | ok entry =>
          obtain ⟨said, _, _, run⟩ := convert_each_written rest index turn
          exact ih _ said fault after (run ▸ failed)
      | error met =>
          cases reported : isReported met with
          | false =>
              rw [convert_each_stopped rest index reported turn] at failed
              rwa [← Except.error.inj (Prod.mk.inj failed).1]
          | true =>
              obtain ⟨said, _, _, run⟩ := convert_each_reported rest index reported turn
              rw [run] at failed
              rcases later : (convertEach slugOf options directory rest index).perform said with
                ⟨other | inner, last⟩
              · rw [later] at failed
                rw [← Except.error.inj (Prod.mk.inj failed).1]
                exact ih index said other last later
              · rw [later] at failed
                simp [Except.map] at failed

theorem update_links_passes_none (slugOf : Text → Text) (index : Page.Index) (path : Text) :
    (updateLinks slugOf index path).PassesNone := by
  rw [updateLinks]
  refine Job.PassesNone.tree.bind fun tree => ?_
  split
  · split
    · exact (Job.PassesNone.throw rfl).bind fun _ => (Job.PassesNone.log _ _).bind fun _ => .pure 0
    · exact (Job.PassesNone.log _ _).bind fun _ => .pure 0
  · exact .throw rfl
  · dsimp only
    split
    · exact .pure 0
    · refine Job.PassesNone.tree.bind fun tree => ?_
      split
      · exact .of_ok fun session => ⟨_, _, rfl⟩
      · exact (Job.PassesNone.log _ _).bind fun _ => .pure 0

theorem update_all_links_passes_none (slugOf : Text → Text) (directory : Text) (index : Page.Index)
    (pages : List Page.Entry) : (updateAllLinks slugOf directory index pages).PassesNone := by
  induction pages with
  | nil => exact .pure 0
  | cons entry rest ih =>
      rw [updateAllLinks]
      exact (update_links_passes_none slugOf index _).bind fun changed => ih.bind fun others => .pure _

theorem print_files_passes_none (options : Options) (paths : List Text) :
    (printFiles options paths).PassesNone := by
  induction paths with
  | nil => exact .pure 0
  | cons path rest ih =>
      rw [printFiles]
      refine Job.PassesNone.tree.bind fun tree => ?_
      split
      · refine (convert_text_passes_none options _).bind fun markdown => ?_
        exact (Job.PassesNone.print markdown).bind fun _ => ih
      · exact (Job.PassesNone.say _).bind fun _ => ih.bind fun failures => .pure _

/-- The number of failures is zero if all files can be read. -/
theorem print_files_count {paths : List Text} {session after : Session} {failures : Nat}
    (done : (printFiles options paths).perform session = (.ok failures, after)) :
    failures = 0 ↔ ∀ path ∈ paths, ∃ source, readSource session.tree path = .ok source := by
  induction paths generalizing session failures with
  | nil =>
      obtain rfl : 0 = failures := Except.ok.inj (Prod.mk.inj done).1
      simp
  | cons path rest ih =>
      rw [printFiles, Job.perform_bind, Job.perform_tree] at done
      dsimp only at done
      rw [List.forall_mem_cons]
      cases read : readSource session.tree path with
      | ok source =>
          obtain ⟨records, run⟩ := convert_text_perform options source session
          simp only [read, Job.perform_bind, run] at done
          cases converted : convert options source with
          | error fault => simp [converted, Except.mapError] at done
          | ok markdown =>
              rw [converted] at done
              simp [ih done]
      | error fault =>
          simp only [read] at done
          rw [Job.perform_bind_ok] at done
          obtain ⟨_, said, saying, done⟩ := done
          rw [Job.perform_bind_ok] at done
          obtain ⟨others, last, _, done⟩ := done
          obtain rfl : others + 1 = failures := Except.ok.inj (Prod.mk.inj done).1
          simp

end Batch

namespace Settings

variable {environment : Environment} {tree : FileTree} {file : Option Text} {fault : Fault}

theorem file_members_unreported (failed : fileMembers tree file = .error fault) :
    Batch.isReported fault = false := by
  unfold fileMembers at failed
  dsimp only at failed
  split at failed
  · simp at failed
  · simp at failed
  · simp at failed
  -- files that cannot be looked up, opened or decoded
  · simp [← Except.error.inj failed, Batch.isReported]
  · simp [← Except.error.inj failed, Batch.isReported]
  · simp [← Except.error.inj failed, Batch.isReported]
  -- texts that are not the JSON of an object
  · split at failed
    · simp at failed
    · simp [← Except.error.inj failed, Batch.isReported]
    · simp [← Except.error.inj failed, Batch.isReported]
    · simp [← Except.error.inj failed, Batch.isReported]
    · simp [← Except.error.inj failed, Batch.isReported]

theorem output_directory_unreported {given : Option Text}
    (failed : outputDirectory environment tree given file = .error fault) : Batch.isReported fault = false := by
  unfold outputDirectory at failed
  split at failed
  · simp at failed
  · simp at failed
  · cases members : fileMembers tree file with
    | ok members => simp [members, Except.map] at failed
    | error met =>
        rw [members] at failed
        rw [← Except.error.inj failed]
        exact file_members_unreported members

theorem setting_unreported {Value : Type} {result : Except SettingsFault Value}
    (failed : result.mapError Fault.settings = .error fault) : Batch.isReported fault = false := by
  cases result with
  | ok value => simp [Except.mapError] at failed
  | error met =>
      rw [← Except.error.inj failed]
      rfl

theorem options_unreported {crlf promoteFirstRow : Option Bool}
    (failed : options environment tree crlf promoteFirstRow file = .error fault) :
    Batch.isReported fault = false := by
  simp only [options, bind, Except.bind] at failed
  split at failed
  · next met members =>
    rw [← Except.error.inj failed]
    exact file_members_unreported members
  · split at failed
    · next met flagged =>
      rw [← Except.error.inj failed]
      exact setting_unreported flagged
    · split at failed
      · next met flagged =>
        rw [← Except.error.inj failed]
        exact setting_unreported flagged
      · exact absurd failed (fun same => by cases same)

end Settings

namespace Command

open Batch

variable {slugOf : Text → Text} {environment : Environment} {input : Content} {arguments : Arguments}
  {options : Options} {files : List Text} {session after : Session} {count : Nat}

/-! ## The steps of a run -/

/-- The options of a run. -/
def optionsOf (environment : Environment) (tree : FileTree) (arguments : Arguments) : Except Fault Options :=
  Settings.options environment tree (if arguments.crlf then some true else none)
    (if arguments.promoteHeader then some true else none) arguments.config

/-- The files of a run and the sources that are missing. -/
def collected (tree : FileTree) (arguments : Arguments) : List Text × List Text :=
  collect tree (arguments.sources.filter (· != standardInput))

def reportMissing (missing : List Text) : Job Unit :=
  missing.forM fun source =>
    Job.say (Markup.alarm "Error" ++ "Cannot find source: ".toList ++ Markup.escape source)

/-- Convert the files of a run; the result is the number of failures. -/
def convertFiles (slugOf : Text → Text) (environment : Environment) (arguments : Arguments)
    (options : Options) (files : List Text) : Job Nat :=
  if arguments.stdout then printFiles options files
  else if files.isEmpty then pure 0
  else writePages slugOf environment arguments options files

/-- Report the sources of a run that are missing and convert its files; the result is the number of failures. -/
def convertCollected (slugOf : Text → Text) (environment : Environment) (arguments : Arguments)
    (options : Options) : Job Nat := do
  let tree ← Job.tree
  reportMissing (collected tree arguments).2
  let failures ← convertFiles slugOf environment arguments options (collected tree arguments).1
  return (collected tree arguments).2.length + failures

/-- A run reads its options, prints the standard input if it is a source, and goes on with the files. -/
theorem convert_sources_eq (slugOf : Text → Text) (environment : Environment) (input : Content)
    (arguments : Arguments) :
    convertSources slugOf environment input arguments =
      Job.tree >>= fun tree => Job.ofExcept (optionsOf environment tree arguments) >>= fun options =>
        (if arguments.sources.contains standardInput then printInput options input else pure ()) >>= fun _ =>
          convertCollected slugOf environment arguments options := by
  have files (tree : FileTree) (options : Options) :
      (convertFiles slugOf environment arguments options (collected tree arguments).1 >>= fun failures =>
        pure ((collected tree arguments).2.length + failures)) =
      if arguments.stdout then
        printFiles options (collected tree arguments).1 >>= fun failures =>
          pure ((collected tree arguments).2.length + failures)
      else if (collected tree arguments).1.isEmpty then
        pure 0 >>= fun failures => pure ((collected tree arguments).2.length + failures)
      else
        writePages slugOf environment arguments options (collected tree arguments).1 >>= fun failures =>
          pure ((collected tree arguments).2.length + failures) := by
    rw [convertFiles]
    split
    · rfl
    · split <;> rfl
  rw [convertSources]
  refine bind_congr fun tree => bind_congr fun options => ?_
  simp only [convertCollected, files]
  split
  · rfl
  · rw [pure_bind]
    rfl

/-! ## What a run passes on -/

theorem print_input_passes_none (options : Options) (input : Content) :
    (printInput options input).PassesNone := by
  cases input with
  | raw bytes => exact .throw rfl
  | text content =>
      exact (convert_text_passes_none options _).bind fun markdown => .print markdown

theorem write_pages_passes_none (slugOf : Text → Text) (environment : Environment) (arguments : Arguments)
    (options : Options) (files : List Text) :
    (writePages slugOf environment arguments options files).PassesNone := by
  rw [writePages]
  refine Job.PassesNone.tree.bind fun tree => ?_
  refine (Job.PassesNone.of_except fun fault => Settings.output_directory_unreported).bind fun setting => ?_
  refine Job.PassesNone.bind (.of_except fun fault failed => ?_) fun directory => ?_
  · cases setting <;> first | (rw [← Except.error.inj failed]; rfl) | exact absurd failed (by simp [pathOf])
  · refine (Job.PassesNone.files (fun _ => rfl) _).bind fun _ => ?_
    refine (Job.PassesNone.bind ?_ fun index => convert_each_passes_none _ _ _ _ _).bind fun results => ?_
    · exact .of_ok fun session => ⟨_, _, rfl⟩
    · refine (update_all_links_passes_none _ _ _ _).bind fun changed => ?_
      dsimp only
      split
      · exact (Job.PassesNone.say _).bind fun _ => (Job.PassesNone.say _).bind fun _ => .pure _
      · exact (Job.PassesNone.say _).bind fun _ => .pure _

theorem report_missing_perform (missing : List Text) (session : Session) :
    ∃ said, (reportMissing missing).perform session = (.ok (), { session with messages := said }) := by
  induction missing generalizing session with
  | nil => exact ⟨session.messages, rfl⟩
  | cons source rest ih =>
      obtain ⟨said, done⟩ := ih { session with messages := session.messages ++ [Markup.shown
        (Markup.alarm "Error" ++ "Cannot find source: ".toList ++ Markup.escape source)] }
      refine ⟨said, ?_⟩
      change ((Job.say _ : Job Unit) >>= fun _ => reportMissing rest).perform session = _
      rw [Job.perform_bind, Job.perform_say]
      exact done

theorem convert_sources_passes_none (slugOf : Text → Text) (environment : Environment) (input : Content)
    (arguments : Arguments) : (convertSources slugOf environment input arguments).PassesNone := by
  rw [convert_sources_eq]
  refine Job.PassesNone.tree.bind fun tree => ?_
  refine (Job.PassesNone.of_except fun fault => Settings.options_unreported).bind fun options => ?_
  refine Job.PassesNone.bind ?_ fun _ => Job.PassesNone.tree.bind fun tree => ?_
  · split
    · exact print_input_passes_none options input
    · exact .pure ()
  · refine Job.PassesNone.bind (.of_ok fun session => ?_) fun _ => Job.PassesNone.bind ?_ fun failures => .pure _
    · obtain ⟨said, done⟩ := report_missing_perform (collected tree arguments).2 session
      exact ⟨_, _, done⟩
    · rw [convertFiles]
      split
      · exact print_files_passes_none _ _
      · split
        · exact .pure 0
        · exact write_pages_passes_none _ _ _ _ _

/-! ## What a run counts -/

/-- Whether none of the files of a run fails: where pages are printed each file can be read, and where they are
written each turn of the batch in the output directory writes its page. -/
def NoneFails (slugOf : Text → Text) (environment : Environment) (arguments : Arguments) (tree : FileTree) :
    Prop :=
  if arguments.stdout then ∀ path ∈ (collected tree arguments).1, ∃ source, readSource tree path = .ok source
  else ∀ options directory made, optionsOf environment tree arguments = .ok options →
    Settings.outputDirectory environment tree arguments.output arguments.config = .ok (.string directory) →
    ((FileJob.makeWithParents (Path.normal directory)).run tree).run = (.ok (), made) →
    ∀ turn ∈ turns slugOf options directory (collected tree arguments).1 made [],
      ∃ entry, turn.result = .ok entry

theorem write_pages_count
    (done : (writePages slugOf environment arguments options files).perform session = (.ok count, after)) :
    ∃ directory made,
      Settings.outputDirectory environment session.tree arguments.output arguments.config =
        .ok (.string directory) ∧
      ((FileJob.makeWithParents (Path.normal directory)).run session.tree).run = (.ok (), made) ∧
      count = (turns slugOf options directory files made []).countP (·.written?.isNone) := by
  rw [writePages, Job.perform_bind, Job.perform_tree] at done
  simp only [Job.perform_bind_ok, makeOutput, Job.perform_of_except_ok, Job.perform_files_ok] at done
  obtain ⟨setting, _, ⟨named, rfl⟩, directory, _, ⟨path, rfl⟩, _, _, ⟨made, making, rfl⟩,
    ⟨index, failures⟩, converted, batch, changed, linked, links, done⟩ := done
  obtain ⟨-, -, failed, -⟩ := convert_all_turns batch
  refine ⟨directory, made, ?_, making, ?_⟩
  · cases setting with
    | string text =>
        obtain rfl : text = directory := Except.ok.inj path
        exact named
    | _ => simp [pathOf] at path
  · rw [← failed]
    split at done
    · simp only [Job.perform_bind_ok] at done
      obtain ⟨_, _, _, _, _, _, done⟩ := done
      exact (Except.ok.inj (Prod.mk.inj done).1).symm
    · rw [Job.perform_bind_ok] at done
      obtain ⟨_, _, _, done⟩ := done
      exact (Except.ok.inj (Prod.mk.inj done).1).symm

theorem print_input_tree (done : (printInput options input).perform session = (.ok (), after)) :
    after.tree = session.tree := by
  cases input with
  | raw bytes => exact absurd done (by simp [printInput])
  | text content =>
      obtain ⟨records, run⟩ := convert_text_perform options (Settings.unifyLineEnds content) session
      rw [printInput, Job.perform_bind_ok] at done
      obtain ⟨markdown, between, converted, done⟩ := done
      rw [run] at converted
      rw [← (Prod.mk.inj done).2, ← (Prod.mk.inj converted).2]

/-- The failures of a run are counted as they come. -/
theorem convert_files_count (chosen : optionsOf environment session.tree arguments = .ok options)
    (done : (convertFiles slugOf environment arguments options
      (collected session.tree arguments).1).perform session = (.ok count, after)) :
    count = 0 ↔ NoneFails slugOf environment arguments session.tree := by
  rw [convertFiles] at done
  rw [NoneFails]
  split at done
  · next printed =>
    rw [if_pos printed]
    exact print_files_count done
  · next written =>
    rw [if_neg written]
    split at done
    · next none =>
      have empty : (collected session.tree arguments).1 = [] := List.isEmpty_iff.mp none
      rw [empty, ← Except.ok.inj (Prod.mk.inj done).1]
      simp [turns]
    · obtain ⟨directory, made, named, making, rfl⟩ := write_pages_count done
      rw [no_failure_iff]
      constructor
      · intro all others other last chosenToo namedToo makingToo
        obtain rfl : options = others := Except.ok.inj (chosen.symm.trans chosenToo)
        obtain rfl : directory = other :=
          JsonValue.string.inj (Except.ok.inj (named.symm.trans namedToo))
        obtain rfl : made = last := (Prod.mk.inj (making.symm.trans makingToo)).2
        exact all
      · exact fun all => all options directory made chosen named making

theorem convert_sources_count
    (done : (convertSources slugOf environment input arguments).perform session = (.ok count, after)) :
    count = 0 ↔ (collected session.tree arguments).2 = [] ∧
      NoneFails slugOf environment arguments session.tree := by
  rw [convert_sources_eq, Job.perform_bind, Job.perform_tree] at done
  simp only [Job.perform_bind_ok, Job.perform_of_except_ok] at done
  obtain ⟨options, _, ⟨chosen, rfl⟩, _, printed, printing, done⟩ := done
  have tree : printed.tree = session.tree := by
    split at printing
    · exact print_input_tree printing
    · rw [← (Prod.mk.inj printing).2]
  rw [convertCollected, Job.perform_bind, Job.perform_tree] at done
  dsimp only at done
  rw [← tree] at chosen ⊢
  obtain ⟨said, saying⟩ := report_missing_perform (collected printed.tree arguments).2 printed
  rw [Job.perform_bind, saying] at done
  dsimp only at done
  rw [Job.perform_bind_ok] at done
  obtain ⟨failures, _, counted, done⟩ := done
  have failed := @convert_files_count slugOf environment arguments options { printed with messages := said }
    _ failures chosen counted
  rw [← Except.ok.inj (Prod.mk.inj done).1, Nat.add_eq_zero_iff, List.length_eq_zero_iff, failed]

/-- A run in which all went well: it was given sources, its settings were right, and each source was there and
was converted. -/
structure Succeeds (slugOf : Text → Text) (environment : Environment) (input : Content) (arguments : Arguments)
    (session : Session) : Prop where
  named : arguments.sources ≠ []
  configured : ∀ fault after, (convertSources slugOf environment input arguments).perform session ≠
    (.error (.settings fault), after)
  present : (collected session.tree arguments).2 = []
  converted : NoneFails slugOf environment arguments session.tree

theorem status_zero_iff {status : Nat}
    (done : (execute slugOf environment input arguments).perform session = (.ok status, after)) :
    status = 0 ↔ Succeeds slugOf environment input arguments session := by
  rw [execute] at done
  split at done
  · next none =>
    rw [Job.perform_bind, Job.perform_say] at done
    rw [← Except.ok.inj (Prod.mk.inj done).1]
    exact ⟨fun zero => absurd zero (by decide), fun all => absurd (List.isEmpty_iff.mp none) all.named⟩
  · next some =>
    have named : arguments.sources ≠ [] := fun none => some (List.isEmpty_iff.mpr none)
    rw [Job.perform_try_catch, Job.perform_bind] at done
    rcases run : (convertSources slugOf environment input arguments).perform session with ⟨fault | count, last⟩
    · rw [run] at done
      have unreported := convert_sources_passes_none slugOf environment input arguments session fault last run
      cases fault with
      | settings fault =>
          dsimp only at done
          rw [Job.perform_bind, Job.perform_say] at done
          rw [← Except.ok.inj (Prod.mk.inj done).1]
          exact ⟨fun zero => absurd zero (by decide), fun all => absurd run (all.configured fault last)⟩
      | source path fault => simp [isReported] at unreported
      | page path error => simp [isReported] at unreported
      | file | notUtf8 | numberTooLong | nestedTooDeep | notPath => simp at done
    · rw [run] at done
      have counted := convert_sources_count run
      have right (fault : SettingsFault) (after : Session) :
          (convertSources slugOf environment input arguments).perform session ≠
            (.error (.settings fault), after) := by
        rw [run]
        simp
      have zero : status = 0 ↔ count = 0 := by
        rw [← Except.ok.inj (Prod.mk.inj done).1]
        by_cases none : count = 0 <;> simp [none]
      rw [zero, counted]
      exact ⟨fun all => ⟨named, right, all.1, all.2⟩, fun all => ⟨all.present, all.converted⟩⟩

end Command

end Wikidown
