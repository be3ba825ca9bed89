import Wikidown.Proofs.Batch.Turns
import Wikidown.Proofs.Command.Status
import Wikidown.Slug

/-!
# Failures in a batch

A source that fails takes no slug, writes nothing and leaves the index alone. All that can be left of it is the
output directory, and once that is there no failure leaves anything. So a batch without the sources that
failed gives the same pages, provided that its first source does not need the directory to be read.
-/

namespace Wikidown

set_option autoImplicit false

namespace Batch

open FileTree

variable {slugOf : Text → Text} {options : Options} {directory path : Text} {paths : List Text}
  {tree start after : FileTree} {taken : List Text} {result : Except Fault Page.Entry}

/-- The sources of the turns that write a page. -/
def convertedPaths (turns : List Turn) : List Text := (turns.filter (·.written?.isSome)).map Turn.path

@[simp]
theorem converted_paths_ok (path : Text) (files : FileTree) (entry : Page.Entry) (rest : List Turn) :
    convertedPaths (⟨path, files, .ok entry⟩ :: rest) = path :: convertedPaths rest := rfl

@[simp]
theorem converted_paths_error (path : Text) (files : FileTree) (fault : Fault) (rest : List Turn) :
    convertedPaths (⟨path, files, .error fault⟩ :: rest) = convertedPaths rest := rfl

/-! ## After the output directory is made -/

/-- A tree in which the directory was made at some time before. -/
def Made (directory : Text) (tree : FileTree) : Prop :=
  ∃ before made, ((FileJob.makeDirectories directory).run before).run = (.ok (), made) ∧ Grows made tree

theorem Made.again (made : Made directory tree) :
    ((FileJob.makeDirectories directory).run tree).run.2 = tree := by
  obtain ⟨before, first, home, grows⟩ := made
  refine FileJob.make_directories_again directory before ?_ ?_
  · rw [home]
    rfl
  · rwa [home]

/-- In a turn that fails and is passed over, no more than the directory is made. -/
theorem Outcome.failed {fault : Fault}
    (outcome : Outcome slugOf options directory path tree taken (.error fault) after)
    (reported : isReported fault = true) :
    after = tree ∨ ((FileJob.makeDirectories directory).run tree).run = (.ok (), after) := by
  cases outcome with
  | unread => exact .inl rfl
  | unconverted => simp [isReported] at reported
  | homeless =>
      rw [Fault.ofFileError] at reported
      split at reported <;> simp [isReported] at reported
  | unwritten _ _ home => exact .inr home

theorem Outcome.written_made {entry : Page.Entry}
    (outcome : Outcome slugOf options directory path tree taken (.ok entry) after) : Made directory after := by
  cases outcome with
  | written _ _ home done => exact ⟨tree, _, home, write_grows done⟩

/-- Once the directory is made, the turns that write a page are the same without the others. -/
theorem turns_of_converted (made : Made directory tree)
    (passed : ∀ turn ∈ turns slugOf options directory paths tree taken, turn.Passed) :
    turns slugOf options directory (convertedPaths (turns slugOf options directory paths tree taken)) tree taken =
        (turns slugOf options directory paths tree taken).filter (·.written?.isSome) ∧
      filesAfter slugOf options directory (convertedPaths (turns slugOf options directory paths tree taken)) tree
        taken = filesAfter slugOf options directory paths tree taken := by
  induction paths generalizing tree taken with
  | nil => exact ⟨rfl, rfl⟩
  | cons path rest ih =>
      obtain ⟨result, after, outcome, all, final⟩ := turns_cons slugOf options directory path rest tree taken
      rw [all, List.forall_mem_cons] at passed
      rw [all, final]
      cases result with
      | ok entry =>
          obtain ⟨others, last⟩ := ih outcome.written_made passed.2
          obtain ⟨same, sameFinal⟩ := outcome.turns_cons (convertedPaths
            (turns slugOf options directory rest after (takenAfter (.ok entry) taken)))
          rw [converted_paths_ok, same, sameFinal, List.filter_cons_of_pos rfl, others, last]
          exact ⟨rfl, rfl⟩
      | error fault =>
          have kept : after = tree := by
            rcases outcome.failed (passed.1 fault rfl) with same | home
            · exact same
            · have again := made.again
              rw [home] at again
              exact again
          subst kept
          exact ih made passed.2

/-! ## Before the output directory is made -/

theorem read_source_extends {source : Text} (more : Extends tree after)
    (read : readSource tree path = .ok source) : readSource after path = .ok source := by
  rw [readSource] at read ⊢
  cases found : tree.read path with
  | error error => simp [found] at read
  | ok content =>
      rw [more.read found]
      rwa [found] at read

/-- The files at the start of a batch, or those with the output directory made. -/
def Reached (directory : Text) (start tree : FileTree) : Prop :=
  tree = start ∨ ((FileJob.makeDirectories directory).run start).run = (.ok (), tree)

theorem Reached.extends (reached : Reached directory start tree) : Extends start tree := by
  rcases reached with rfl | home
  · exact .refl tree
  · have more := FileJob.make_directories_extends directory start
    rwa [home] at more

/-- Making the directory leads to the same files from all that is reached. -/
theorem Reached.home (reached : Reached directory start tree)
    (home : ((FileJob.makeDirectories directory).run tree).run = (.ok (), after)) :
    ((FileJob.makeDirectories directory).run start).run = (.ok (), after) := by
  rcases reached with rfl | made
  · exact home
  · have again := Made.again ⟨start, tree, made, .refl tree⟩
    rw [home] at again
    rwa [← again] at made

theorem Outcome.reached_of_failed {fault : Fault}
    (outcome : Outcome slugOf options directory path tree taken (.error fault) after)
    (reported : isReported fault = true) (reached : Reached directory start tree) :
    Reached directory start after := by
  rcases outcome.failed reported with rfl | home
  · exact reached
  · exact .inr (reached.home home)

/-- A page that is written could have been written at the start, if its source could be read then. -/
theorem Outcome.at_start {entry : Page.Entry} {source : Text}
    (outcome : Outcome slugOf options directory path tree taken (.ok entry) after)
    (reached : Reached directory start tree) (readable : readSource start path = .ok source) :
    Outcome slugOf options directory path start taken (.ok entry) after := by
  cases outcome with
  | written read converted home done =>
      obtain rfl := Except.ok.inj ((read_source_extends reached.extends readable).symm.trans read)
      exact .written readable converted (reached.home home) done

section SamePages

variable (slugOf : Text → Text) (options : Options) (directory : Text)

/-- The sources `kept`, without a failure, give from `start` what the sources `paths` give from `tree`; the
latter may leave more directories. -/
structure SamePages (kept : List Text) (start : FileTree) (paths : List Text) (tree : FileTree)
    (taken : List Text) : Prop where
  index : writtenPages (turns slugOf options directory kept start taken) =
    writtenPages (turns slugOf options directory paths tree taken)
  written : ∀ turn ∈ turns slugOf options directory kept start taken, ∃ entry, turn.result = .ok entry
  files : Extends (filesAfter slugOf options directory kept start taken)
    (filesAfter slugOf options directory paths tree taken)

end SamePages

theorem exists_written {turns : List Turn} {turn : Turn} (member : turn ∈ turns.filter (·.written?.isSome)) :
    ∃ entry, turn.result = .ok entry := by
  obtain ⟨entry, written⟩ := Option.isSome_iff_exists.mp (List.mem_filter.mp member).2
  exact ⟨entry, written_eq_some.mp written⟩

theorem written_pages_filter (turns : List Turn) :
    writtenPages (turns.filter (·.written?.isSome)) = writtenPages turns := by
  rw [writtenPages, List.filterMap_filter]
  refine List.filterMap_congr fun turn _ => ?_
  cases turn.written? <;> rfl

/-- The turns ahead of the first page make no more than the directory, and those after it make nothing. -/
theorem same_pages_of_converted (reached : Reached directory start tree)
    (passed : ∀ turn ∈ turns slugOf options directory paths tree taken, turn.Passed)
    (readable : ∀ path ∈ (convertedPaths (turns slugOf options directory paths tree taken)).head?,
      ∃ source, readSource start path = .ok source) :
    SamePages slugOf options directory (convertedPaths (turns slugOf options directory paths tree taken)) start
      paths tree taken := by
  induction paths generalizing tree with
  | nil => exact ⟨rfl, by simp [turns, convertedPaths], reached.extends⟩
  | cons path rest ih =>
      obtain ⟨result, after, outcome, all, final⟩ := turns_cons slugOf options directory path rest tree taken
      rw [all] at readable
      rw [all, List.forall_mem_cons] at passed
      rw [all]
      cases result with
      | ok entry =>
          obtain ⟨source, read⟩ := readable path rfl
          obtain ⟨others, last⟩ := turns_of_converted outcome.written_made passed.2
          obtain ⟨same, sameFinal⟩ := (outcome.at_start reached read).turns_cons (convertedPaths
            (turns slugOf options directory rest after (takenAfter (.ok entry) taken)))
          rw [converted_paths_ok]
          refine ⟨?_, ?_, ?_⟩
          · rw [same, all, others, written_pages_ok, written_pages_ok, written_pages_filter]
          · rw [same, others, List.forall_mem_cons]
            exact ⟨⟨entry, rfl⟩, fun turn member => exists_written member⟩
          · rw [sameFinal, final, last]
            exact .refl _
      | error fault =>
          obtain ⟨index, written, files⟩ := ih
            (outcome.reached_of_failed (passed.1 fault rfl) reached) passed.2 readable
          rw [converted_paths_error]
          refine ⟨?_, written, ?_⟩
          · rw [all, written_pages_error]
            exact index
          · rw [final]
            exact files

/-! ## Batches without the sources that fail -/

section Statements

variable (slugOf : Text → Text) (options : Options) (directory : Text) (paths : List Text) (session : Session)

/-- The first source of a batch that is converted can be read before the batch. -/
def FirstReadable : Prop :=
  ∀ path ∈ (convertedPaths (turns slugOf options directory paths session.tree [])).head?,
    ∃ source, readSource session.tree path = .ok source

/-- A batch of the sources that are converted gives the same index, without a failure, and the same files. -/
def SameWithoutFailures (index : Page.Index) (tree : FileTree) : Prop :=
  ∃ others : Session, (convertAll slugOf options directory
      (convertedPaths (turns slugOf options directory paths session.tree []))).perform session =
    (.ok (index, 0), others) ∧ Extends others.tree tree

end Statements

theorem same_without_failures {session finished : Session} {index : Page.Index} {failures : Nat}
    (done : (convertAll slugOf options directory paths).perform session = (.ok (index, failures), finished))
    (readable : FirstReadable slugOf options directory paths session) :
    SameWithoutFailures slugOf options directory paths session index finished.tree := by
  obtain ⟨passed, rfl, -, tree⟩ := convert_all_turns done
  obtain ⟨index, written, files⟩ := same_pages_of_converted (.inl rfl) passed readable
  obtain ⟨others, run, final⟩ := @convert_all_passed slugOf options directory
    (convertedPaths (turns slugOf options directory paths session.tree [])) session (by
      intro turn member fault failed
      obtain ⟨entry, made⟩ := written turn member
      simp [made] at failed)
  refine ⟨others, ?_, ?_⟩
  · rw [run, index, no_failure_iff.mpr written]
  · rw [final, tree]
    exact files

theorem first_readable_of_same {session : Session} {index : Page.Index} {tree : FileTree}
    (same : SameWithoutFailures slugOf options directory paths session index tree) :
    FirstReadable slugOf options directory paths session := by
  obtain ⟨others, run, -⟩ := same
  rw [FirstReadable]
  generalize convertedPaths (turns slugOf options directory paths session.tree []) = kept at run ⊢
  intro path first
  obtain ⟨rest, rfl⟩ := List.head?_eq_some_iff.mp first
  obtain ⟨-, -, none, -⟩ := convert_all_turns run
  obtain ⟨result, after, outcome, all, -⟩ := turns_cons slugOf options directory path rest session.tree []
  obtain ⟨entry, made⟩ := no_failure_iff.mp none.symm _ (all ▸ List.mem_cons_self)
  dsimp only at made
  subst made
  cases outcome with
  | @written source _ _ _ read _ _ _ => exact ⟨source, read⟩

/-- Failures in a batch and in a run. Without the sources that fail a batch gives the same pages, if and only if
the first source that is converted could be read before: at its turn a failure may have made the output
directory, and the way to the source may lead through it. The status of a run is zero if and only if nothing
failed. -/
theorem failures_kept_apart {session finished before final : Session} {index : Page.Index}
    {failures status : Nat} {environment : Environment} {input : Content} {arguments : Command.Arguments}
    (batch : (convertAll slugOf options directory paths).perform session = (.ok (index, failures), finished))
    (run : (Command.execute slugOf environment input arguments).perform before = (.ok status, final)) :
    (FirstReadable slugOf options directory paths session ↔
      SameWithoutFailures slugOf options directory paths session index finished.tree) ∧
    (status = 0 ↔ Command.Succeeds slugOf environment input arguments before) :=
  ⟨⟨same_without_failures batch, first_readable_of_same⟩, Command.status_zero_iff run⟩

/-- A name that has room for no extension. -/
def longNamePath : Text := List.replicate 255 'a'

/-- Two sources, of which one has too long a name for a page. -/
def longName : Session where
  tree :=
    { entries := [(["b.txt".toList], .file (.text "x".toList)), ([longNamePath], .file (.text "y".toList))] }

def longNameRun : Command.Arguments := { sources := [longNamePath, "b.txt".toList] }

theorem failures_kept_apart_for_long_name :
    ((convertAll slugify {} "out".toList [longNamePath, "b.txt".toList]).perform longName).1 =
        .ok ([⟨"b".toList, "b".toList, "b".toList⟩], 1) ∧
      ((Command.execute slugify [] (.text []) longNameRun).perform longName).1 = .ok 1 ∧
      (FirstReadable slugify {} "out".toList [longNamePath, "b.txt".toList] longName ↔
        SameWithoutFailures slugify {} "out".toList [longNamePath, "b.txt".toList] longName
          [⟨"b".toList, "b".toList, "b".toList⟩]
          ((convertAll slugify {} "out".toList [longNamePath, "b.txt".toList]).perform longName).2.tree) ∧
      (1 = 0 ↔ Command.Succeeds slugify [] (.text []) longNameRun longName) := by
  have batch : ((convertAll slugify {} "out".toList [longNamePath, "b.txt".toList]).perform longName).1 =
      .ok ([⟨"b".toList, "b".toList, "b".toList⟩], 1) := by decide +kernel
  have run : ((Command.execute slugify [] (.text []) longNameRun).perform longName).1 = .ok 1 := by
    decide +kernel
  exact ⟨batch, run, failures_kept_apart (Job.perform_of_result batch) (Job.perform_of_result run)⟩

/-- The failure of a source makes the output directory, through which the way to the next source leads. Without
the failure there is no such way, and the next source fails. -/
theorem failure_makes_way :
    ((convertAll slugify {} "out".toList [longNamePath, "out/../b.txt".toList]).perform longName).1 =
        .ok ([⟨"b".toList, "b".toList, "b".toList⟩], 1) ∧
      convertedPaths
        (turns slugify {} "out".toList [longNamePath, "out/../b.txt".toList] longName.tree []) =
          ["out/../b.txt".toList] ∧
      ((convertAll slugify {} "out".toList ["out/../b.txt".toList]).perform longName).1 = .ok ([], 1) :=
  ⟨by decide +kernel, by decide +kernel, by decide +kernel⟩

end Batch

end Wikidown
