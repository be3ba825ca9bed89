import Wikidown.Batch
import Wikidown.Proofs.Files.Directory
import Wikidown.Proofs.Slugs

/-!
# The turns of a batch

The sources of a batch have their turns one after another. What becomes of a source depends on the files
and the taken slugs at its turn alone, and a turn leaves only files and slugs behind for the next one.
-/

namespace Wikidown.Batch

set_option autoImplicit false

variable {slugOf : Text → Text} {options : Options} {directory path : Text} {paths : List Text}
  {tree : FileTree} {taken : List Text}

/-! ## One turn -/

/-- The path of the page with a slug. -/
def pagePath (directory slug : Text) : Text := Path.join directory (pageFile slug)

/-- What becomes of the source at a path, and the tree of files after its turn. -/
inductive Outcome (slugOf : Text → Text) (options : Options) (directory path : Text) (tree : FileTree)
    (taken : List Text) : Except Fault Page.Entry → FileTree → Prop
  | unread {fault : ReadFault} (failed : readSource tree path = .error fault) :
      Outcome slugOf options directory path tree taken (.error (.ofReadFault path fault)) tree
  | unconverted {source : Text} {fault : NumberTooLong} (read : readSource tree path = .ok source)
      (failed : convert options source = .error fault) :
      Outcome slugOf options directory path tree taken (.error (.numberTooLong fault)) tree
  | homeless {source markdown : Text} {error : FileError} {made : FileTree}
      (read : readSource tree path = .ok source) (converted : convert options source = .ok markdown)
      (failed : ((FileJob.makeDirectories directory).run tree).run = (.error error, made)) :
      Outcome slugOf options directory path tree taken (.error (.ofFileError .file error)) made
  | unwritten {source markdown : Text} {error : FileError} {made : FileTree}
      (read : readSource tree path = .ok source) (converted : convert options source = .ok markdown)
      (home : ((FileJob.makeDirectories directory).run tree).run = (.ok (), made))
      (failed : made.write (pagePath directory (uniqueSlug slugOf (titleOf path) taken))
        (markdown ++ lastLineEnd options) = .error error) :
      Outcome slugOf options directory path tree taken (.error (.ofFileError (.page path) error)) made
  | written {source markdown : Text} {made final : FileTree}
      (read : readSource tree path = .ok source) (converted : convert options source = .ok markdown)
      (home : ((FileJob.makeDirectories directory).run tree).run = (.ok (), made))
      (done : made.write (pagePath directory (uniqueSlug slugOf (titleOf path) taken))
        (markdown ++ lastLineEnd options) = .ok final) :
      Outcome slugOf options directory path tree taken
        (.ok ⟨uniqueSlug slugOf (titleOf path) taken, uniqueSlug slugOf (titleOf path) taken, titleOf path⟩)
        final

/-- The slugs that are taken after a turn. -/
def takenAfter (result : Except Fault Page.Entry) (taken : List Text) : List Text :=
  match result with
  | .ok entry => entry.slug :: taken
  | .error _ => taken

theorem convert_text_perform (options : Options) (source : Text) (session : Session) :
    ∃ records, (convertText options source).perform session =
      ((convert options source).mapError .numberTooLong, { session with records := records }) := by
  refine ⟨session.records ++ [⟨.debug, maskedSummary (Document.masked source).store⟩], ?_⟩
  rw [convertText, Job.perform_bind, Job.perform_log]
  dsimp only
  rw [Job.perform_of_except]

/-- The end of a turn: the page is written and its slug is taken. -/
def writePage (options : Options) (directory path slug title markdown : Text) (taken : List Text) :
    Job Page.Entry := do
  Job.files .file (FileJob.makeDirectories directory)
  Job.files (.page path)
    (FileJob.change (·.write (pagePath directory slug) (markdown ++ lastLineEnd options)))
  Job.setTaken (slug :: taken)
  Job.log .debug ("Converted ".toList ++ path ++ " to ".toList ++ pagePath directory slug)
  return { key := slug, slug := slug, title := title }

/-- A turn in which the source is read and converted ends with writing the page. -/
theorem convert_file_writes {source markdown : Text} (session : Session)
    (read : readSource session.tree path = .ok source) (converted : convert options source = .ok markdown) :
    ∃ records, (convertFile slugOf options directory path).perform session =
      (writePage options directory path (uniqueSlug slugOf (titleOf path) session.taken) (titleOf path)
        markdown session.taken).perform { session with records := records } := by
  obtain ⟨records, written⟩ := convert_text_perform options source session
  rw [converted] at written
  have warned (test : Prop) [Decidable test] (text : Text) (next : Job Page.Entry) (start : Session) :
      ∃ records, ((if test then (do Job.log .warning text; next) else next) : Job Page.Entry).perform start =
        next.perform { start with records := records } := by
    by_cases holds : test
    · refine ⟨start.records ++ [⟨.warning, text⟩], ?_⟩
      rw [if_pos holds, Job.perform_bind, Job.perform_log]
    · exact ⟨start.records, by rw [if_neg holds]⟩
  obtain ⟨final, same⟩ := warned (uniqueSlug slugOf (titleOf path) session.taken ≠ baseSlug slugOf (titleOf path))
    ("Output name of ".toList ++ path ++ " already used, writing ".toList ++
      pageFile (uniqueSlug slugOf (titleOf path) session.taken))
    (writePage options directory path (uniqueSlug slugOf (titleOf path) session.taken) (titleOf path)
      markdown session.taken) { session with records := records }
  refine ⟨final, ?_⟩
  rw [← same, convertFile]
  simp only [Job.perform_bind, Job.perform_tree, Job.perform_of_except, read, Except.mapError, written,
    Job.perform_taken]
  rfl

/-- A turn has one of the outcomes, and takes a slug where it writes a page. -/
theorem convert_file_outcome (slugOf : Text → Text) (options : Options) (directory path : Text)
    (session : Session) {result : Except Fault Page.Entry} {after : Session}
    (turn : (convertFile slugOf options directory path).perform session = (result, after)) :
    Outcome slugOf options directory path session.tree session.taken result after.tree ∧
      after.taken = takenAfter result session.taken := by
  cases read : readSource session.tree path with
  | error fault =>
      rw [convertFile] at turn
      simp only [Job.perform_bind, Job.perform_tree, Job.perform_of_except, read, Except.mapError] at turn
      obtain ⟨rfl, rfl⟩ := Prod.mk.inj turn
      exact ⟨.unread read, rfl⟩
  | ok source =>
      cases converted : convert options source with
      | error fault =>
          obtain ⟨records, written⟩ := convert_text_perform options source session
          rw [convertFile] at turn
          simp only [Job.perform_bind, Job.perform_tree, Job.perform_of_except, read, Except.mapError,
            written, converted] at turn
          obtain ⟨rfl, rfl⟩ := Prod.mk.inj turn
          exact ⟨.unconverted read converted, rfl⟩
      | ok markdown =>
          obtain ⟨records, written⟩ := @convert_file_writes slugOf options directory path _ _ session read
            converted
          rw [written, writePage, Job.perform_bind, Job.perform_files] at turn
          rcases home : ((FileJob.makeDirectories directory).run session.tree).run with ⟨error | _, made⟩
          · rw [home] at turn
            obtain ⟨rfl, rfl⟩ := Prod.mk.inj turn
            exact ⟨.homeless read converted home, rfl⟩
          · rw [home] at turn
            simp only [Except.mapError] at turn
            rw [Job.perform_bind, Job.perform_files, FileJob.run_change] at turn
            cases done : made.write (pagePath directory (uniqueSlug slugOf (titleOf path) session.taken))
                (markdown ++ lastLineEnd options) with
            | error error =>
                rw [done] at turn
                obtain ⟨rfl, rfl⟩ := Prod.mk.inj turn
                exact ⟨.unwritten read converted home done, rfl⟩
            | ok final =>
                rw [done] at turn
                obtain ⟨rfl, rfl⟩ := Prod.mk.inj turn
                exact ⟨.written read converted home done, rfl⟩

/-- What becomes of a source is determined by the files and the taken slugs at its turn. -/
theorem Outcome.unique {result other : Except Fault Page.Entry} {after afterOther : FileTree}
    (first : Outcome slugOf options directory path tree taken result after)
    (second : Outcome slugOf options directory path tree taken other afterOther) :
    result = other ∧ after = afterOther := by
  cases first <;> cases second <;> simp_all

/-! ## All turns -/

/-- Whether a batch goes on after a fault. -/
def isReported : Fault → Bool
  | .source .. => true
  | .page .. => true
  | _ => false

/-- A source, the files at its turn, and the result of the turn. -/
structure Turn where
  path : Text
  files : FileTree
  result : Except Fault Page.Entry

/-- The page that was written, if one was. -/
def Turn.written? (turn : Turn) : Option Page.Entry := turn.result.toOption

theorem written_eq_some {turn : Turn} {entry : Page.Entry} :
    turn.written? = some entry ↔ turn.result = .ok entry := by
  rw [Turn.written?]
  cases turn.result <;> simp [Except.toOption]

/-- The pages that are written in turns, in their order. -/
def writtenPages (turns : List Turn) : Page.Index := turns.filterMap Turn.written?

@[simp]
theorem written_pages_ok (path : Text) (files : FileTree) (entry : Page.Entry) (rest : List Turn) :
    writtenPages (⟨path, files, .ok entry⟩ :: rest) = entry :: writtenPages rest := rfl

@[simp]
theorem written_pages_error (path : Text) (files : FileTree) (fault : Fault) (rest : List Turn) :
    writtenPages (⟨path, files, .error fault⟩ :: rest) = writtenPages rest := rfl

theorem mem_written_pages {turns : List Turn} {entry : Page.Entry} :
    entry ∈ writtenPages turns ↔ ∃ turn ∈ turns, turn.result = .ok entry := by
  simp only [writtenPages, List.mem_filterMap, written_eq_some]

theorem no_failure_iff {turns : List Turn} :
    turns.countP (·.written?.isNone) = 0 ↔ ∀ turn ∈ turns, ∃ entry, turn.result = .ok entry := by
  simp only [List.countP_eq_zero, Option.isNone_iff_eq_none, ← ne_eq, Option.ne_none_iff_exists', written_eq_some]

/-- A turn after which the batch goes on. -/
def Turn.Passed (turn : Turn) : Prop := ∀ fault, turn.result = .error fault → isReported fault = true

section Turns

variable (slugOf : Text → Text) (options : Options) (directory : Text)

/-- The turns of the sources at `paths`, each on the files and the taken slugs that the turns before it
leave. -/
def turns : (paths : List Text) → FileTree → (taken : List Text) → List Turn
  | [], _, _ => []
  | path :: rest, tree, taken =>
      let run := (convertFile slugOf options directory path).perform { tree := tree, taken := taken }
      { path := path, files := tree, result := run.1 } :: turns rest run.2.tree run.2.taken

/-- The files after all turns. -/
def filesAfter : (paths : List Text) → FileTree → (taken : List Text) → FileTree
  | [], tree, _ => tree
  | path :: rest, tree, taken =>
      let run := (convertFile slugOf options directory path).perform { tree := tree, taken := taken }
      filesAfter rest run.2.tree run.2.taken

end Turns

/-- The first turn has an outcome, and the others go on with what it leaves. -/
theorem turns_cons (slugOf : Text → Text) (options : Options) (directory path : Text) (rest : List Text)
    (tree : FileTree) (taken : List Text) :
    ∃ result after, Outcome slugOf options directory path tree taken result after ∧
      turns slugOf options directory (path :: rest) tree taken =
        ⟨path, tree, result⟩ :: turns slugOf options directory rest after (takenAfter result taken) ∧
      filesAfter slugOf options directory (path :: rest) tree taken =
        filesAfter slugOf options directory rest after (takenAfter result taken) := by
  rcases turn : (convertFile slugOf options directory path).perform { tree := tree, taken := taken } with
    ⟨result, after⟩
  obtain ⟨outcome, slugs⟩ := convert_file_outcome slugOf options directory path _ turn
  refine ⟨result, after.tree, outcome, ?_, ?_⟩
  · rw [turns, turn, ← slugs]
  · rw [filesAfter, turn, ← slugs]

/-- A first turn with a known outcome. -/
theorem Outcome.turns_cons {result : Except Fault Page.Entry} {after : FileTree}
    (outcome : Outcome slugOf options directory path tree taken result after) (rest : List Text) :
    turns slugOf options directory (path :: rest) tree taken =
        ⟨path, tree, result⟩ :: turns slugOf options directory rest after (takenAfter result taken) ∧
      filesAfter slugOf options directory (path :: rest) tree taken =
        filesAfter slugOf options directory rest after (takenAfter result taken) := by
  obtain ⟨other, last, same, all, final⟩ := Batch.turns_cons slugOf options directory path rest tree taken
  obtain ⟨rfl, rfl⟩ := outcome.unique same
  exact ⟨all, final⟩

/-- Each source has one turn, in the order of the sources. -/
theorem turns_paths (slugOf : Text → Text) (options : Options) (directory : Text) (paths : List Text)
    (tree : FileTree) (taken : List Text) :
    (turns slugOf options directory paths tree taken).map Turn.path = paths := by
  induction paths generalizing tree taken with
  | nil => rfl
  | cons path rest ih => rw [turns, List.map_cons, ih]

/-- A source has its turn as if nothing had been said before. -/
theorem convert_file_alone (slugOf : Text → Text) (options : Options) (directory path : Text)
    (session : Session) :
    ∃ after : Session, (convertFile slugOf options directory path).perform session =
        (((convertFile slugOf options directory path).perform
          { tree := session.tree, taken := session.taken }).1, after) ∧
      after.tree = ((convertFile slugOf options directory path).perform
        { tree := session.tree, taken := session.taken }).2.tree ∧
      after.taken = ((convertFile slugOf options directory path).perform
        { tree := session.tree, taken := session.taken }).2.taken := by
  rcases here : (convertFile slugOf options directory path).perform session with ⟨result, after⟩
  rcases alone : (convertFile slugOf options directory path).perform
    { tree := session.tree, taken := session.taken } with ⟨other, afterOther⟩
  obtain ⟨outcome, taken⟩ := convert_file_outcome slugOf options directory path session here
  obtain ⟨outcomeToo, takenToo⟩ := convert_file_outcome slugOf options directory path _ alone
  obtain ⟨rfl, same⟩ := outcome.unique outcomeToo
  exact ⟨after, rfl, same, taken.trans takenToo.symm⟩

section Steps

variable {session left : Session} (rest : List Text) (index : Page.Index)

/-- After a turn that writes a page the batch goes on with the page in the index. -/
theorem convert_each_written {entry : Page.Entry}
    (turn : (convertFile slugOf options directory path).perform session = (.ok entry, left)) :
    ∃ said : Session, said.tree = left.tree ∧ said.taken = left.taken ∧
      (convertEach slugOf options directory (path :: rest) index).perform session =
        (convertEach slugOf options directory rest (index.insert entry)).perform said := by
  refine ⟨{ left with messages := left.messages ++ [Markup.shown
    ("Converted: ".toList ++ Markup.styled "bold blue" (Markup.escape path) ++
      " → ".toList ++ pageFile (Markup.escape entry.slug))] }, rfl, rfl, ?_⟩
  rw [convertEach, Job.perform_bind, Job.perform_try_catch, Job.perform_map, turn]
  dsimp only
  rw [Job.perform_bind, Job.perform_say]

/-- After a turn with a fault that is reported the batch goes on, and counts it. -/
theorem convert_each_reported {fault : Fault} (reported : isReported fault = true)
    (turn : (convertFile slugOf options directory path).perform session = (.error fault, left)) :
    ∃ said : Session, said.tree = left.tree ∧ said.taken = left.taken ∧
      (convertEach slugOf options directory (path :: rest) index).perform session =
        (((convertEach slugOf options directory rest index).perform said).1.map (Prod.map id (· + 1)),
          ((convertEach slugOf options directory rest index).perform said).2) := by
  refine ⟨{ left with messages := left.messages ++ [Markup.shown
    (Markup.alarm "Conversion Error" ++ Markup.escape fault.message)] }, rfl, rfl, ?_⟩
  rw [convertEach, Job.perform_bind, Job.perform_try_catch, Job.perform_map, turn]
  dsimp only
  cases fault with
  | source | page =>
      simp only [Job.perform_bind, Job.perform_say, Job.perform_pure]
      rcases (convertEach slugOf options directory rest index).perform _ with ⟨_ | _, last⟩ <;> rfl
  | _ => simp [isReported] at reported

/-- Any other fault ends the batch. -/
theorem convert_each_stopped {fault : Fault} (unreported : isReported fault = false)
    (turn : (convertFile slugOf options directory path).perform session = (.error fault, left)) :
    (convertEach slugOf options directory (path :: rest) index).perform session = (.error fault, left) := by
  rw [convertEach, Job.perform_bind, Job.perform_try_catch, Job.perform_map, turn]
  cases fault <;> first | rfl | simp [isReported] at unreported

end Steps

/-- A batch in which each turn has passed ends with the pages of its turns in the index and the number of
turns without a page. -/
theorem convert_each_turns (slugOf : Text → Text) (options : Options) (directory : Text) (paths : List Text)
    (index : Page.Index) (session : Session)
    (passed : ∀ turn ∈ turns slugOf options directory paths session.tree session.taken, turn.Passed) :
    ∃ after : Session, (convertEach slugOf options directory paths index).perform session =
        (.ok ((writtenPages (turns slugOf options directory paths session.tree session.taken)).foldl
            (fun index entry => index.insert entry) index,
          (turns slugOf options directory paths session.tree session.taken).countP
            (·.written?.isNone)), after) ∧
      after.tree = filesAfter slugOf options directory paths session.tree session.taken := by
  induction paths generalizing index session with
  | nil => exact ⟨session, rfl, rfl⟩
  | cons path rest ih =>
      obtain ⟨left, turn, tree, taken⟩ := convert_file_alone slugOf options directory path session
      rw [turns, List.forall_mem_cons] at passed
      rw [← tree, ← taken] at passed
      rw [turns, filesAfter]
      rw [← tree, ← taken]
      generalize ((convertFile slugOf options directory path).perform
        { tree := session.tree, taken := session.taken }).1 = result at turn passed ⊢
      cases result with
      | ok entry =>
          obtain ⟨said, sameTree, sameTaken, run⟩ := convert_each_written rest index turn
          rw [← sameTree, ← sameTaken] at passed ⊢
          rw [run]
          exact ih (index.insert entry) said passed.2
      | error fault =>
          obtain ⟨said, sameTree, sameTaken, run⟩ := convert_each_reported rest index
            (passed.1 fault rfl) turn
          rw [← sameTree, ← sameTaken] at passed ⊢
          obtain ⟨after, done, final⟩ := ih index said passed.2
          refine ⟨after, ?_, final⟩
          rw [run, done, written_pages_error, List.countP_cons_of_pos rfl]
          rfl

theorem convert_each_passed {index : Page.Index} {session after : Session}
    {final : Page.Index × Nat}
    (done : (convertEach slugOf options directory paths index).perform session = (.ok final, after)) :
    ∀ turn ∈ turns slugOf options directory paths session.tree session.taken, turn.Passed := by
  induction paths generalizing index session final with
  | nil => simp [turns]
  | cons path rest ih =>
      obtain ⟨left, turn, tree, taken⟩ := convert_file_alone slugOf options directory path session
      rw [turns, List.forall_mem_cons]
      rw [← tree, ← taken]
      generalize ((convertFile slugOf options directory path).perform
        { tree := session.tree, taken := session.taken }).1 = result at turn ⊢
      cases result with
      | ok entry =>
          obtain ⟨said, sameTree, sameTaken, run⟩ := convert_each_written rest index turn
          rw [run] at done
          rw [← sameTree, ← sameTaken]
          exact ⟨fun fault failed => by simp at failed, ih done⟩
      | error fault =>
          cases reported : isReported fault with
          | false =>
              rw [convert_each_stopped rest index reported turn] at done
              simp at done
          | true =>
              obtain ⟨said, sameTree, sameTaken, run⟩ := convert_each_reported rest index reported turn
              rw [run] at done
              rw [← sameTree, ← sameTaken]
              rcases later : (convertEach slugOf options directory rest index).perform said with
                ⟨_ | inner, last⟩
              · rw [later] at done
                simp [Except.map] at done
              · rw [later] at done
                obtain rfl : last = after := (Prod.mk.inj done).2
                refine ⟨fun other same => ?_, ih later⟩
                rw [← Except.error.inj same]
                exact reported

/-! ## Whole batches -/

/-- Pages with the given titles, whose slugs are taken in turn. -/
def pagesOf (slugOf : Text → Text) (titles taken : List Text) : Page.Index :=
  List.zipWith (fun slug title => ⟨slug, slug, title⟩) (uniqueSlugs slugOf titles taken) titles

theorem pages_of_cons (slugOf : Text → Text) (title : Text) (titles taken : List Text) :
    pagesOf slugOf (title :: titles) taken =
      ⟨uniqueSlug slugOf title taken, uniqueSlug slugOf title taken, title⟩ ::
        pagesOf slugOf titles (uniqueSlug slugOf title taken :: taken) := rfl

theorem pages_of_slug {titles : List Text} {entry : Page.Entry} (member : entry ∈ pagesOf slugOf titles taken) :
    entry.key = entry.slug ∧ ∃ earlier, entry.slug = uniqueSlug slugOf entry.title earlier := by
  induction titles generalizing taken with
  | nil => exact absurd member List.not_mem_nil
  | cons title titles ih =>
      rw [pages_of_cons] at member
      rcases List.mem_cons.mp member with rfl | later
      · exact ⟨rfl, taken, rfl⟩
      · exact ih later

theorem pages_of_slugs (slugOf : Text → Text) (titles taken : List Text) :
    (pagesOf slugOf titles taken).map Page.Entry.slug = uniqueSlugs slugOf titles taken := by
  induction titles generalizing taken with
  | nil => rfl
  | cons title titles ih => rw [pages_of_cons, List.map_cons, ih, uniqueSlugs]

theorem pages_of_fresh (slugOf : Text → Text) (titles taken : List Text) :
    ((pagesOf slugOf titles taken).map Page.Entry.slug).Nodup ∧
      ∀ entry ∈ pagesOf slugOf titles taken, entry.slug ∉ taken := by
  have fresh := unique_slugs_fresh slugOf titles taken
  rw [← pages_of_slugs] at fresh
  exact ⟨fresh.1, fun entry member => fresh.2 entry.slug (List.mem_map_of_mem member)⟩

/-- The pages of a batch take their slugs in turn. -/
theorem exists_titles (slugOf : Text → Text) (options : Options) (directory : Text) (paths : List Text)
    (tree : FileTree) (taken : List Text) :
    ∃ titles, writtenPages (turns slugOf options directory paths tree taken) = pagesOf slugOf titles taken := by
  induction paths generalizing tree taken with
  | nil => exact ⟨[], rfl⟩
  | cons path rest ih =>
      obtain ⟨result, after, outcome, all, -⟩ := turns_cons slugOf options directory path rest tree taken
      obtain ⟨titles, pages⟩ := ih after (takenAfter result taken)
      rw [all]
      cases outcome with
      | unread | unconverted | homeless | unwritten =>
          rw [written_pages_error]
          exact ⟨titles, pages⟩
      | written =>
          rw [written_pages_ok, pages]
          exact ⟨titleOf path :: titles, rfl⟩

/-- The slugs of a batch are different from each other and from those that were taken before. -/
theorem turns_fresh (slugOf : Text → Text) (options : Options) (directory : Text) (paths : List Text)
    (tree : FileTree) (taken : List Text) :
    ((writtenPages (turns slugOf options directory paths tree taken)).map Page.Entry.slug).Nodup ∧
      ∀ entry ∈ writtenPages (turns slugOf options directory paths tree taken),
        entry.key = entry.slug ∧ entry.slug ∉ taken := by
  obtain ⟨titles, pages⟩ := exists_titles slugOf options directory paths tree taken
  obtain ⟨distinct, fresh⟩ := pages_of_fresh slugOf titles taken
  rw [pages]
  exact ⟨distinct, fun entry member => ⟨(pages_of_slug member).1, fresh entry member⟩⟩

/-! ## The index of a batch -/

theorem insert_fresh {index : Page.Index} {entry : Page.Entry}
    (fresh : ∀ other ∈ index, other.key ≠ entry.key) : index.insert entry = index ++ [entry] := by
  induction index with
  | nil => rfl
  | cons other rest ih =>
      rw [List.forall_mem_cons] at fresh
      rw [Page.Index.insert, if_neg fresh.1, ih fresh.2]
      rfl

/-- Pages with different keys are put into the index one behind another. -/
theorem insert_all_fresh (entries : List Page.Entry) (index : Page.Index)
    (distinct : ((index ++ entries).map Page.Entry.key).Nodup) :
    entries.foldl (fun index entry => index.insert entry) index = index ++ entries := by
  induction entries generalizing index with
  | nil => simp
  | cons entry rest ih =>
      have fresh : ∀ other ∈ index, other.key ≠ entry.key := by
        intro other there same
        rw [List.map_append, List.nodup_append] at distinct
        exact distinct.2.2 other.key (List.mem_map_of_mem there) entry.key (by simp) same
      rw [List.foldl_cons, insert_fresh fresh, ih, List.append_assoc, List.singleton_append]
      rwa [List.append_assoc, List.singleton_append]

/-- A batch ends unless a turn has not passed, with the pages of its turns in the index. -/
theorem convert_all_passed (session : Session)
    (passed : ∀ turn ∈ turns slugOf options directory paths session.tree [], turn.Passed) :
    ∃ after : Session, (convertAll slugOf options directory paths).perform session =
        (.ok (writtenPages (turns slugOf options directory paths session.tree []),
          (turns slugOf options directory paths session.tree []).countP (·.written?.isNone)), after) ∧
      after.tree = filesAfter slugOf options directory paths session.tree [] := by
  obtain ⟨after, run, tree⟩ := convert_each_turns slugOf options directory paths []
    { session with taken := [] } passed
  refine ⟨after, ?_, tree⟩
  obtain ⟨distinct, fresh⟩ := turns_fresh slugOf options directory paths session.tree []
  have keys : (writtenPages (turns slugOf options directory paths session.tree [])).map Page.Entry.key =
      (writtenPages (turns slugOf options directory paths session.tree [])).map Page.Entry.slug :=
    List.map_congr_left fun entry member => (fresh entry member).1
  rw [convertAll, Job.perform_bind, Job.perform_set_taken]
  refine run.trans ?_
  rw [insert_all_fresh _ [] (keys ▸ distinct), List.nil_append]

theorem convert_all_turns {session after : Session} {index : Page.Index} {failures : Nat}
    (done : (convertAll slugOf options directory paths).perform session = (.ok (index, failures), after)) :
    (∀ turn ∈ turns slugOf options directory paths session.tree [], turn.Passed) ∧
      index = writtenPages (turns slugOf options directory paths session.tree []) ∧
      failures = (turns slugOf options directory paths session.tree []).countP (·.written?.isNone) ∧
      after.tree = filesAfter slugOf options directory paths session.tree [] := by
  have passed : ∀ turn ∈ turns slugOf options directory paths session.tree [], turn.Passed := by
    rw [convertAll, Job.perform_bind, Job.perform_set_taken] at done
    exact convert_each_passed done
  obtain ⟨other, run, tree⟩ := convert_all_passed session passed
  rw [done] at run
  obtain ⟨results, rfl⟩ := Prod.mk.inj run
  obtain ⟨pages, count⟩ := Prod.mk.inj (Except.ok.inj results)
  exact ⟨passed, pages, count, tree⟩

end Wikidown.Batch
