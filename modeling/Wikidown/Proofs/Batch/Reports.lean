import Wikidown.Proofs.BatchPages
import Wikidown.Proofs.Files.Parents
import Wikidown.Proofs.PrintedPages

/-!
# What a batch reports

A batch passes over the faults of its sources and pages, and nothing else goes wrong in it as long as each source
that can be read can be converted and the output directory, which is there, can be named. The links of its pages
are updated without any fault.
-/

namespace Wikidown

set_option autoImplicit false

namespace Job

variable {Value Result : Type} {job : Job Value} {next : Value → Job Result} {session between : Session}

/-- A job that ends with no other fault than wrong settings. -/
def Reports (job : Job Value) (session : Session) : Prop :=
  ∀ fault after, job.perform session = (.error fault, after) → ∃ wrong, fault = .settings wrong

theorem reports_of_ok {value : Value} {after : Session} (done : job.perform session = (.ok value, after)) :
    job.Reports session := by
  intro fault last failed
  rw [done] at failed
  simp at failed

theorem reports_bind : (job >>= next).Reports session ↔ job.Reports session ∧
    ∀ value between, job.perform session = (.ok value, between) → (next value).Reports between := by
  constructor
  · intro reports
    refine ⟨fun fault after failed => ?_, fun value between done fault after failed => ?_⟩
    · exact reports fault after (perform_bind_error.mpr (.inl failed))
    · exact reports fault after (perform_bind_error.mpr (.inr ⟨value, between, done, failed⟩))
  · rintro ⟨first, rest⟩ fault after failed
    rcases perform_bind_error.mp failed with here | ⟨value, between, done, later⟩
    · exact first fault after here
    · exact rest value between done fault after later

theorem reports_bind_ok {value : Value} (done : job.perform session = (.ok value, between)) :
    (job >>= next).Reports session ↔ (next value).Reports between := by
  rw [Reports, Reports, perform_bind, done]

/-- A fault is reported alike whatever becomes of a result. -/
theorem reports_of_map {other : Job Result} {change : Result → Value}
    (same : job.perform session = ((other.perform between).1.map change, (other.perform between).2)) :
    job.Reports session ↔ other.Reports between := by
  rw [Reports, Reports, same]
  rcases other.perform between with ⟨_ | _, last⟩ <;> simp [Except.map]

theorem reports_of_except {result : Except Fault Value} :
    (Job.ofExcept result).Reports session ↔
      ∀ fault, result = .error fault → ∃ wrong, fault = .settings wrong := by
  simp only [Reports, perform_of_except, Prod.mk.injEq]
  exact ⟨fun all fault failed => all fault session ⟨failed, rfl⟩, fun all fault _ failed => all fault failed.1⟩

/-- What reads the settings goes on with them in the same session. -/
theorem reports_bind_of_except {result : Except Fault Value} :
    (Job.ofExcept result >>= next).Reports session ↔
      (∀ fault, result = .error fault → ∃ wrong, fault = .settings wrong) ∧
        ∀ value, result = .ok value → (next value).Reports session := by
  rw [reports_bind, reports_of_except]
  refine and_congr_right fun _ => ⟨fun all value found => ?_, fun all value between done => ?_⟩
  · exact all value session (perform_of_except_ok.mpr ⟨found, rfl⟩)
  · obtain ⟨found, rfl⟩ := perform_of_except_ok.mp done
    exact all value found

end Job

namespace Batch

open FileTree

variable {slugOf : Text → Text} {options : Options} {directory path slug : Text} {paths : List Text}
  {tree after : FileTree} {taken : List Text} {result : Except Fault Page.Entry} {session : Session}

/-! ## Printing -/

theorem convert_text_reports_iff (options : Options) (source : Text) (session : Session) :
    (convertText options source).Reports session ↔ ∃ markdown, convert options source = .ok markdown := by
  obtain ⟨records, run⟩ := convert_text_perform options source session
  cases converted : convert options source with
  | ok markdown =>
      rw [converted] at run
      exact ⟨fun _ => ⟨markdown, rfl⟩, fun _ => Job.reports_of_ok run⟩
  | error fault =>
      rw [converted] at run
      constructor
      · intro reports
        obtain ⟨wrong, same⟩ := reports _ _ run
        simp at same
      · rintro ⟨_, same⟩
        simp at same

/-- Printing files goes well as long as each of them that can be read can be converted. -/
theorem print_files_reports_iff (options : Options) (paths : List Text) (session : Session) :
    (printFiles options paths).Reports session ↔ ∀ path ∈ paths, ∀ source,
      readSource session.tree path = .ok source → ∃ markdown, convert options source = .ok markdown := by
  induction paths generalizing session with
  | nil =>
      have done : (printFiles options []).perform session = (.ok 0, session) := rfl
      simpa using Job.reports_of_ok done
  | cons path rest ih =>
      rw [List.forall_mem_cons]
      cases read : readSource session.tree path with
      | error fault =>
          obtain ⟨messages, run⟩ := @print_files_unread options path session fault read
          rw [Job.reports_of_map (run rest), ih]
          simp
      | ok source =>
          cases converted : convert options source with
          | error fault =>
              obtain ⟨records, run⟩ := print_files_unconverted read converted
              constructor
              · intro reports
                obtain ⟨wrong, same⟩ := reports _ _ (run rest)
                simp at same
              · rintro ⟨here, _⟩
                obtain ⟨markdown, same⟩ := here source rfl
                rw [converted] at same
                simp at same
          | ok markdown =>
              obtain ⟨records, run⟩ := print_files_converted read converted
              have same := ih { session with records := records, printed := session.printed ++ markdown ++ ['\n'] }
              rw [Job.Reports, ← run rest] at same
              rw [Job.Reports, same]
              refine (and_iff_right fun other known => ?_).symm
              obtain rfl := Except.ok.inj known
              exact ⟨markdown, converted⟩

/-! ## Turns -/

/-- A source that can be converted as long as it can be read, and an output directory that is not too long then. -/
def Handled (options : Options) (directory : Text) (tree : FileTree) (path : Text) : Prop :=
  ∀ source, readSource tree path = .ok source →
    byteLength directory ≤ pathLimit ∧ ∃ markdown, convert options source = .ok markdown

/-- The directory at a path can be made, or is there. -/
def CanMake (tree : FileTree) (directory : Text) : Prop :=
  ∃ made, ((FileJob.makeDirectories directory).run tree).run = (.ok (), made)

/-- A directory that is there is made again unless its path is too long. -/
theorem can_make_standing_iff (stands : Standing tree directory) :
    CanMake tree directory ↔ byteLength directory ≤ pathLimit := by
  refine ⟨fun ⟨made, home⟩ => ?_, fun short => ⟨tree, FileJob.make_standing stands short⟩⟩
  by_contra long
  obtain ⟨error, _, failed⟩ := FileJob.make_standing_long stands (Nat.lt_of_not_le long)
  rw [home] at failed
  simp at failed

theorem nul_not_mem_page_path (clean : '\x00' ∉ directory) (plain : '\x00' ∉ slug) :
    '\x00' ∉ pagePath directory slug := by
  have file : '\x00' ∉ pageFile slug := by simp [pageFile, plain]
  unfold pagePath Path.join
  split
  · exact file
  · split <;> simp [clean, file]

theorem Outcome.grows (outcome : Outcome slugOf options directory path tree taken result after) :
    Grows tree after := by
  have extended := (FileJob.make_directories_extends directory tree).grows
  cases outcome with
  | unread | unconverted => exact .refl tree
  | homeless _ _ failed =>
      rwa [failed] at extended
  | unwritten _ _ home =>
      rwa [home] at extended
  | written _ _ home done =>
      rw [home] at extended
      exact extended.trans (write_grows done)

theorem clean_of_read_source {source : Text} (read : readSource tree path = .ok source) : '\x00' ∉ path := by
  rw [readSource] at read
  cases found : tree.read path with
  | error error => simp [found] at read
  | ok content =>
      obtain ⟨_, way, _⟩ := read_iff.mp found
      exact (locate_iff.mp way).1

/-- A source that cannot be read is reported, unless its path has a NUL character. -/
theorem read_source_error_iff {fault : ReadFault} (failed : readSource tree path = .error fault) :
    isReported (.ofReadFault path fault) = true ↔ '\x00' ∉ path := by
  constructor
  · intro reported nul
    have unread : tree.read path = .error ⟨.nulInPath, path⟩ := by
      rw [FileTree.read, lookup, locate, if_pos (by simpa using nul)]
    rw [readSource, unread] at failed
    rw [← Except.error.inj failed] at reported
    change isReported (.file ⟨.nulInPath, path⟩) = true at reported
    simp [isReported] at reported
  · intro clean
    rw [readSource] at failed
    split at failed
    · next error unread =>
      rw [← Except.error.inj failed, Fault.ofReadFault, Fault.ofFileError, if_pos (read_error unread clean)]
      rfl
    · rw [← Except.error.inj failed]
      rfl
    · simp at failed

/-- The batch goes on after a turn as long as the path of its source is proper and, if the source can be read, it can
be converted and the output directory can be made. -/
theorem Outcome.reported_iff (outcome : Outcome slugOf options directory path tree taken result after)
    (plain : '\x00' ∉ slugOf (titleOf path)) :
    (∀ fault, result = .error fault → isReported fault = true) ↔ '\x00' ∉ path ∧
      ∀ source, readSource tree path = .ok source →
        (∃ markdown, convert options source = .ok markdown) ∧ CanMake tree directory := by
  have single (fault : Fault) : (∀ other, (.error fault : Except Fault Page.Entry) = .error other →
      isReported other = true) ↔ isReported fault = true :=
    ⟨fun all => all fault rfl, fun known other same => Except.error.inj same ▸ known⟩
  have given {source : Text} (read : readSource tree path = .ok source) :
      ('\x00' ∉ path ∧ ∀ source, readSource tree path = .ok source →
        (∃ markdown, convert options source = .ok markdown) ∧ CanMake tree directory) ↔
      (∃ markdown, convert options source = .ok markdown) ∧ CanMake tree directory := by
    rw [and_iff_right (clean_of_read_source read)]
    refine ⟨fun all => all source read, fun here other readToo => ?_⟩
    rwa [← Except.ok.inj (read.symm.trans readToo)]
  cases outcome with
  | unread failed =>
      rw [single, read_source_error_iff failed]
      exact (and_iff_left fun source read => by rw [failed] at read; simp at read).symm
  | unconverted read failed =>
      rw [single, given read]
      refine iff_of_false (by simp [isReported]) fun handled => ?_
      obtain ⟨⟨markdown, converted⟩, _⟩ := handled
      rw [failed] at converted
      simp at converted
  | @homeless _ _ error _ read converted failed =>
      rw [single, given read]
      refine iff_of_false (fun reported => ?_) fun handled => ?_
      · unfold Fault.ofFileError at reported
        split at reported <;> simp [isReported] at reported
      · obtain ⟨_, made, home⟩ := handled
        rw [failed] at home
        simp at home
  | unwritten read converted home failed =>
      rw [single, given read]
      have proper : '\x00' ∉ directory := @FileJob.clean_of_passed tree directory (by rw [home]; rfl)
      have page := nul_not_mem_page_path proper (not_mem_unique_slug plain (by decide) (by decide) taken)
      refine iff_of_true ?_ ⟨⟨_, converted⟩, _, home⟩
      rw [Fault.ofFileError, if_pos (write_error failed page)]
      rfl
  | written read converted home done =>
      rw [given read]
      exact iff_of_true (fun fault same => by simp at same) ⟨⟨_, converted⟩, _, home⟩

/-- Where the output directory is there, the batch goes on after a turn as long as its source is handled. -/
theorem Outcome.passed_iff (outcome : Outcome slugOf options directory path tree taken result after)
    (stands : Standing tree directory) (clean : '\x00' ∉ path) (plain : '\x00' ∉ slugOf (titleOf path)) :
    (∀ fault, result = .error fault → isReported fault = true) ↔ Handled options directory tree path := by
  rw [outcome.reported_iff plain, and_iff_right clean, can_make_standing_iff stands, Handled]
  simp only [and_comm]

/-- A batch goes on to its end as long as the source of each turn is handled. -/
theorem turns_passed_iff (stands : Standing tree directory) (clean : ∀ path ∈ paths, '\x00' ∉ path)
    (plain : ∀ path ∈ paths, '\x00' ∉ slugOf (titleOf path)) :
    (∀ turn ∈ turns slugOf options directory paths tree taken, turn.Passed) ↔
      ∀ turn ∈ turns slugOf options directory paths tree taken,
        Handled options directory turn.files turn.path := by
  induction paths generalizing tree taken with
  | nil => simp [turns]
  | cons path rest ih =>
      obtain ⟨result, after, outcome, all, -⟩ := turns_cons slugOf options directory path rest tree taken
      rw [List.forall_mem_cons] at clean plain
      rw [all, List.forall_mem_cons, List.forall_mem_cons]
      exact and_congr (outcome.passed_iff stands clean.1 plain.1)
        (ih (stands.grows outcome.grows) clean.2 plain.2)

/-- A turn has nothing to do with the settings. -/
theorem Outcome.unset {wrong : SettingsFault}
    (outcome : Outcome slugOf options directory path tree taken (.error (.settings wrong)) after) : False := by
  generalize shape : (Except.error (Fault.settings wrong) : Except Fault Page.Entry) = result at outcome
  cases outcome with
  | @unread fault _ =>
      have same := Except.error.inj shape
      cases fault with
      | notUtf8 => simp [Fault.ofReadFault] at same
      | file error =>
          rw [Fault.ofReadFault, Fault.ofFileError] at same
          split at same <;> simp at same
  | unconverted => simp at shape
  | homeless | unwritten =>
      have same := Except.error.inj shape
      unfold Fault.ofFileError at same
      split at same <;> simp at same
  | written => simp at shape

/-- A batch ends with a fault of its own unless it goes on after each of its turns. -/
theorem convert_each_reports_iff (slugOf : Text → Text) (options : Options) (directory : Text)
    (paths : List Text) (index : Page.Index) (session : Session) :
    (convertEach slugOf options directory paths index).Reports session ↔
      ∀ turn ∈ turns slugOf options directory paths session.tree session.taken, turn.Passed := by
  induction paths generalizing index session with
  | nil =>
      have done : (convertEach slugOf options directory [] index).perform session = (.ok (index, 0), session) := rfl
      simpa [turns] using Job.reports_of_ok done
  | cons path rest ih =>
      obtain ⟨left, turn, tree, taken⟩ := convert_file_alone slugOf options directory path session
      have outcome := (convert_file_outcome slugOf options directory path session turn).1
      rw [turns, List.forall_mem_cons, ← tree, ← taken]
      generalize ((convertFile slugOf options directory path).perform
        { tree := session.tree, taken := session.taken }).1 = result at turn outcome ⊢
      cases result with
      | ok entry =>
          obtain ⟨said, sameTree, sameTaken, run⟩ := convert_each_written rest index turn
          have rests := ih (index.insert entry) said
          rw [Job.Reports, ← run, sameTree, sameTaken] at rests
          rw [Job.Reports, rests]
          exact (and_iff_right fun fault same => by simp at same).symm
      | error fault =>
          cases reported : isReported fault with
          | true =>
              obtain ⟨said, sameTree, sameTaken, run⟩ := convert_each_reported rest index reported turn
              rw [Job.reports_of_map run, ih, sameTree, sameTaken]
              exact (and_iff_right fun other same => Except.error.inj same ▸ reported).symm
          | false =>
              have stopped := convert_each_stopped rest index reported turn
              constructor
              · intro reports
                obtain ⟨wrong, rfl⟩ := reports _ _ stopped
                exact absurd outcome Outcome.unset
              · rintro ⟨here, _⟩
                rw [here fault rfl] at reported
                simp at reported

theorem convert_all_reports_iff (stands : Standing session.tree directory) (clean : ∀ path ∈ paths, '\x00' ∉ path)
    (plain : ∀ path ∈ paths, '\x00' ∉ slugOf (titleOf path)) :
    (convertAll slugOf options directory paths).Reports session ↔
      ∀ turn ∈ turns slugOf options directory paths session.tree [],
        Handled options directory turn.files turn.path := by
  rw [convertAll, Job.reports_bind_ok (Job.perform_set_taken [] session), convert_each_reports_iff]
  exact turns_passed_iff stands clean plain

/-! ## Links -/

/-- A path to a file with a text. -/
def HoldsText (tree : FileTree) (path : Text) : Prop := ∃ text, tree.read path = .ok (.text text)

theorem HoldsText.extends (holds : HoldsText tree path) (more : Extends tree after) : HoldsText after path := by
  obtain ⟨text, found⟩ := holds
  exact ⟨text, more.read found⟩

/-- Whatever is written, a file with a text keeps having one. -/
theorem HoldsText.write {elsewhere content : Text} (holds : HoldsText tree path)
    (written : tree.write elsewhere content = .ok after) : HoldsText after path := by
  obtain ⟨text, found⟩ := holds
  have grows := write_grows written
  obtain ⟨_, place, _, other, rfl⟩ := write_iff.mp written
  obtain ⟨known, way, here⟩ := read_iff.mp found
  by_cases same : known = place
  · refine ⟨content, read_iff.mpr ⟨known, grows.locate way, ?_⟩⟩
    rw [entry_set (ne_nil_of_entry_ne other), if_pos same]
  · refine ⟨text, read_iff.mpr ⟨known, grows.locate way, ?_⟩⟩
    rw [entry_set (ne_nil_of_entry_ne other), if_neg same, here]

theorem Outcome.holds_text {page : Text} (outcome : Outcome slugOf options directory path tree taken result after)
    (holds : HoldsText tree page) : HoldsText after page := by
  have extended := holds.extends (FileJob.make_directories_extends directory tree)
  cases outcome with
  | unread | unconverted => exact holds
  | homeless _ _ failed =>
      rwa [failed] at extended
  | unwritten _ _ home =>
      rwa [home] at extended
  | written _ _ home done =>
      rw [home] at extended
      exact extended.write done

theorem files_after_holds_text {page : Text} (holds : HoldsText tree page) :
    HoldsText (filesAfter slugOf options directory paths tree taken) page := by
  induction paths generalizing tree taken with
  | nil => exact holds
  | cons path rest ih =>
      obtain ⟨result, after, outcome, -, final⟩ := turns_cons slugOf options directory path rest tree taken
      rw [final]
      exact ih (outcome.holds_text holds)

/-- The pages of a batch have texts when it is over. -/
theorem written_pages_hold_text (slugOf : Text → Text) (options : Options) (directory : Text) (paths : List Text)
    (tree : FileTree) (taken : List Text) :
    ∀ entry ∈ writtenPages (turns slugOf options directory paths tree taken),
      HoldsText (filesAfter slugOf options directory paths tree taken) (pagePath directory entry.slug) := by
  induction paths generalizing tree taken with
  | nil => simp [turns, writtenPages]
  | cons path rest ih =>
      obtain ⟨result, after, outcome, all, final⟩ := turns_cons slugOf options directory path rest tree taken
      rw [all, final]
      cases outcome with
      | unread | unconverted | homeless | unwritten =>
          rw [written_pages_error]
          exact ih _ _
      | written _ _ _ done =>
          rw [written_pages_ok, List.forall_mem_cons]
          exact ⟨files_after_holds_text ⟨_, read_of_write done⟩, ih after _⟩

/-- The links of a file with a text are updated without any fault, and all texts stay texts. -/
theorem update_links_returns {index : Page.Index} (holds : HoldsText session.tree path) :
    ∃ changed finished, (updateLinks slugOf index path).perform session = (.ok changed, finished) ∧
      ∀ other, HoldsText session.tree other → HoldsText finished.tree other := by
  obtain ⟨text, found⟩ := holds
  rcases @update_links_of_text slugOf index session path text found with ⟨_, done⟩ | ⟨_, tree, written, done⟩
  · exact ⟨0, session, done, fun other known => known⟩
  · exact ⟨_, _, done, fun other known => known.write written⟩

theorem update_all_links_returns {index pages : Page.Index}
    (hold : ∀ entry ∈ pages, HoldsText session.tree (pagePath directory entry.slug)) :
    ∃ changed finished,
      (updateAllLinks slugOf directory index pages).perform session = (.ok changed, finished) := by
  induction pages generalizing session with
  | nil => exact ⟨0, session, rfl⟩
  | cons entry rest ih =>
      rw [List.forall_mem_cons] at hold
      obtain ⟨changed, between, first, kept⟩ := @update_links_returns slugOf _ _ index hold.1
      obtain ⟨others, finished, done⟩ := ih fun other member => kept _ (hold.2 other member)
      refine ⟨changed + others, finished, ?_⟩
      rw [pagePath] at first
      rw [updateAllLinks, Job.perform_bind, first]
      dsimp only
      rw [Job.perform_bind, done]
      rfl

end Batch

end Wikidown
