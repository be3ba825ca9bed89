import Wikidown.Proofs.Batch.Turns

/-!
# Printed files and pages

A file is printed with the text of its page but for the end of the last line: printing ends it with a line feed
whatever the options say, a page with the line end that they ask for.
-/

namespace Wikidown.Batch

set_option autoImplicit false

variable {slugOf : Text → Text} {options : Options} {directory path source markdown : Text}
  {before behind : List Text} {tree : FileTree} {session after : Session} {count : Nat}

/-! ## Printing one file after another -/

/-- A file that can be converted is printed, and the run goes on. -/
theorem print_files_converted (read : readSource session.tree path = .ok source)
    (converted : convert options source = .ok markdown) :
    ∃ records, ∀ behind, (printFiles options (path :: behind)).perform session =
      (printFiles options behind).perform
        { session with records := records, printed := session.printed ++ markdown ++ ['\n'] } := by
  obtain ⟨records, run⟩ := convert_text_perform options source session
  refine ⟨records, fun behind => ?_⟩
  simp only [printFiles, Job.perform_bind, Job.perform_tree, read, run, converted, Except.mapError,
    Job.perform_print]

/-- A file with a placeholder whose number is too long ends the run. -/
theorem print_files_unconverted {fault : NumberTooLong}
    (read : readSource session.tree path = .ok source) (failed : convert options source = .error fault) :
    ∃ records, ∀ behind, (printFiles options (path :: behind)).perform session =
      (.error (.numberTooLong fault), { session with records := records }) := by
  obtain ⟨records, run⟩ := convert_text_perform options source session
  refine ⟨records, fun behind => ?_⟩
  simp only [printFiles, Job.perform_bind, Job.perform_tree, read, run, failed, Except.mapError]

/-- A file that cannot be read is reported and counted, and the run goes on. -/
theorem print_files_unread {fault : ReadFault} (read : readSource session.tree path = .error fault) :
    ∃ messages, ∀ behind, (printFiles options (path :: behind)).perform session =
      (((printFiles options behind).perform { session with messages := messages }).1.map (· + 1),
        ((printFiles options behind).perform { session with messages := messages }).2) := by
  refine ⟨session.messages ++ [Markup.shown (Markup.alarm "Error" ++ Markup.escape path ++ ": ".toList ++
    Markup.escape fault.message)], fun behind => ?_⟩
  simp only [printFiles, Job.perform_bind, Job.perform_tree, read, Job.perform_say, Job.perform_pure]
  rcases (printFiles options behind).perform _ with ⟨_ | _, last⟩ <;> rfl

/-- A file ends the run, or the run adds something to what was printed and goes on; in neither case it changes
the files. -/
theorem print_files_cons (options : Options) (path : Text) (session : Session) :
    ∃ left : Session, left.tree = session.tree ∧
      ((∃ fault, left.printed = session.printed ∧
          ∀ behind, (printFiles options (path :: behind)).perform session = (.error fault, left)) ∨
        ∃ added failures, left.printed = session.printed ++ added ∧
          ∀ behind, (printFiles options (path :: behind)).perform session =
            (((printFiles options behind).perform left).1.map (· + failures),
              ((printFiles options behind).perform left).2)) := by
  cases read : readSource session.tree path with
  | error fault =>
      obtain ⟨messages, run⟩ := @print_files_unread options path session fault read
      exact ⟨{ session with messages := messages }, rfl, .inr ⟨[], 1, (List.append_nil _).symm, run⟩⟩
  | ok source =>
      cases converted : convert options source with
      | error fault =>
          obtain ⟨records, run⟩ := print_files_unconverted read converted
          exact ⟨{ session with records := records }, rfl, .inl ⟨_, rfl, run⟩⟩
      | ok markdown =>
          obtain ⟨records, run⟩ := print_files_converted read converted
          refine ⟨{ session with records := records, printed := session.printed ++ markdown ++ ['\n'] }, rfl,
            .inr ⟨markdown ++ ['\n'], 0, List.append_assoc .., fun behind => ?_⟩⟩
          rw [run behind]
          rcases (printFiles options behind).perform _ with ⟨_ | _, last⟩ <;> rfl

/-- A run changes no files, and what it prints is added to what was printed before. -/
theorem print_files_adds (options : Options) (paths : List Text) (session : Session) :
    ((printFiles options paths).perform session).2.tree = session.tree ∧
      ∃ added, ((printFiles options paths).perform session).2.printed = session.printed ++ added := by
  induction paths generalizing session with
  | nil => exact ⟨rfl, [], (List.append_nil _).symm⟩
  | cons path behind ih =>
      obtain ⟨left, tree, ⟨fault, printed, run⟩ | ⟨added, failures, printed, run⟩⟩ :=
        print_files_cons options path session
      · rw [run, printed]
        exact ⟨tree, [], (List.append_nil _).symm⟩
      · obtain ⟨same, more, all⟩ := ih left
        rw [run, all, printed, List.append_assoc]
        exact ⟨same.trans tree, added ++ more, rfl⟩

/-- A run that ends has ended for its first files, and goes on from there with the others. -/
theorem print_files_append
    (done : (printFiles options (before ++ behind)).perform session = (.ok count, after)) :
    ∃ first second between, (printFiles options before).perform session = (.ok first, between) ∧
      (printFiles options behind).perform between = (.ok second, after) := by
  induction before generalizing session count with
  | nil => exact ⟨0, count, session, rfl, done⟩
  | cons path before ih =>
      obtain ⟨left, _, ⟨fault, _, run⟩ | ⟨_, failures, _, run⟩⟩ := print_files_cons options path session
      · rw [List.cons_append, run] at done
        simp at done
      · rw [List.cons_append, run] at done
        rcases rest : (printFiles options (before ++ behind)).perform left with ⟨_ | others, last⟩
        · simp [rest, Except.map] at done
        · rw [rest] at done
          obtain rfl := (Prod.mk.inj done).2
          obtain ⟨first, second, between, front, back⟩ := ih rest
          refine ⟨first + failures, second, between, ?_, back⟩
          rw [run, front]
          rfl

/-! ## A file as it is printed and as a page -/

/-- A text is what printing writes for the file at a path, whatever is printed before and behind it. -/
structure PrintedAs (options : Options) (tree : FileTree) (path text : Text) : Prop where
  alone : ∀ session : Session, session.tree = tree →
    ∃ after, (printFiles options [path]).perform session = (.ok 0, after) ∧
      after.printed = session.printed ++ text
  within : ∀ before behind count after, ∀ session : Session, session.tree = tree →
    (printFiles options (before ++ path :: behind)).perform session = (.ok count, after) →
      ∃ first between back, (printFiles options before).perform session = (.ok first, between) ∧
        after.printed = between.printed ++ text ++ back

/-- A text is what the page of the source at a path holds: the page is written wherever its file can be, and once
it is written it is read back with that text. -/
structure WrittenAs (slugOf : Text → Text) (options : Options) (directory : Text) (tree : FileTree)
    (path text : Text) : Prop where
  returns : ∀ made final, ∀ session : Session, session.tree = tree →
    ((FileJob.makeDirectories directory).run tree).run = (.ok (), made) →
    made.write (pagePath directory (uniqueSlug slugOf (titleOf path) session.taken)) text = .ok final →
      ∃ entry after, (convertFile slugOf options directory path).perform session = (.ok entry, after) ∧
        after.tree = final
  page : ∀ entry after, ∀ session : Session, session.tree = tree →
    (convertFile slugOf options directory path).perform session = (.ok entry, after) →
      after.tree.read (pagePath directory entry.slug) = .ok (.text text)

theorem printed_as_line (read : readSource tree path = .ok source)
    (converted : convert options source = .ok markdown) :
    PrintedAs options tree path (markdown ++ ['\n']) := by
  constructor
  · rintro session rfl
    obtain ⟨records, run⟩ := print_files_converted read converted
    exact ⟨_, run [], List.append_assoc ..⟩
  · rintro before behind count after session rfl done
    obtain ⟨first, second, between, front, back⟩ := print_files_append done
    have tree := (print_files_adds options before session).1
    rw [front] at tree
    obtain ⟨records, run⟩ := print_files_converted (tree.symm ▸ read) converted
    obtain ⟨-, more, printed⟩ := print_files_adds options behind
      { between with records := records, printed := between.printed ++ markdown ++ ['\n'] }
    rw [run behind] at back
    rw [back] at printed
    refine ⟨first, between, more, front, ?_⟩
    rw [printed]
    simp only [List.append_assoc]

theorem written_as_page (slugOf : Text → Text) (directory : Text) (read : readSource tree path = .ok source)
    (converted : convert options source = .ok markdown) :
    WrittenAs slugOf options directory tree path (markdown ++ lastLineEnd options) := by
  constructor
  · rintro made final session rfl home written
    rcases turn : (convertFile slugOf options directory path).perform session with ⟨result, after⟩
    have known : Outcome slugOf options directory path session.tree session.taken _ final :=
      .written read converted home written
    obtain ⟨same, last⟩ := known.unique (convert_file_outcome slugOf options directory path session turn).1
    exact ⟨_, after, by rw [← same], last.symm⟩
  · rintro entry after session rfl turn
    cases (convert_file_outcome slugOf options directory path session turn).1 with
    | @written other shown _ _ readToo convertedToo _ written =>
        obtain rfl : source = other := Except.ok.inj (read.symm.trans readToo)
        obtain rfl : markdown = shown := Except.ok.inj (converted.symm.trans convertedToo)
        exact FileTree.read_of_write written

theorem last_line_end_eq_iff (options : Options) : ['\n'] = lastLineEnd options ↔ options.crlf = false := by
  cases crlf : options.crlf <;> simp [lastLineEnd, crlf]

/-- A file that can be read is printed as its page is written, if lines end with a line feed; otherwise its last
line is printed with a line end of its own, and all before it is the same. Only a placeholder whose number is too
long keeps the file from both. -/
theorem printed_as_page_iff (slugOf : Text → Text) (options : Options) (directory : Text)
    (read : readSource tree path = .ok source) :
    (∃ fault, ∀ session : Session, session.tree = tree →
        ((printFiles options [path]).perform session).1 = .error (.numberTooLong fault) ∧
        ((convertFile slugOf options directory path).perform session).1 = .error (.numberTooLong fault)) ∨
      ∃ printed written, PrintedAs options tree path printed ∧
        WrittenAs slugOf options directory tree path written ∧
        (printed = written ↔ options.crlf = false) ∧
        ∃ lines, printed = lines ++ "\n".toList ∧ written = lines ++ lastLineEnd options := by
  cases converted : convert options source with
  | error fault =>
      refine .inl ⟨fault, ?_⟩
      rintro session rfl
      constructor
      · obtain ⟨records, run⟩ := print_files_unconverted read converted
        rw [run]
      · rcases turn : (convertFile slugOf options directory path).perform session with ⟨result, after⟩
        have known : Outcome slugOf options directory path session.tree session.taken _ session.tree :=
          .unconverted read converted
        exact (known.unique (convert_file_outcome slugOf options directory path session turn).1).1.symm
  | ok markdown =>
      refine .inr ⟨_, _, printed_as_line read converted, written_as_page slugOf directory read converted, ?_,
        markdown, rfl, rfl⟩
      rw [List.append_cancel_left_eq]
      exact last_line_end_eq_iff options

/-- A source of one line. -/
def oneLine : Session where
  tree := { entries := [(["a.txt".toList], .file (.text "x".toList))] }

theorem printed_as_page_iff_one_line :
    readSource oneLine.tree "a.txt".toList = .ok "x".toList ∧
      ∃ printed written, PrintedAs {} oneLine.tree "a.txt".toList printed ∧
        WrittenAs slugify {} "out".toList oneLine.tree "a.txt".toList written ∧ printed = written := by
  have read : readSource oneLine.tree "a.txt".toList = .ok "x".toList := by decide +kernel
  refine ⟨read, ?_⟩
  rcases printed_as_page_iff slugify {} "out".toList read with ⟨fault, fails⟩ |
    ⟨printed, written, shown, page, same, -⟩
  · have printing : ((printFiles {} ["a.txt".toList]).perform oneLine).1 = .ok 0 := by decide +kernel
    rw [(fails oneLine rfl).1] at printing
    simp at printing
  · exact ⟨printed, written, shown, page, same.mpr rfl⟩

/-- Where lines end with a carriage return and a line feed, the last line is printed without the carriage
return. -/
theorem printed_last_line_differs :
    readSource oneLine.tree "a.txt".toList = .ok "x".toList ∧
      ((printFiles ⟨true, false⟩ ["a.txt".toList]).perform oneLine).2.printed = "x\n".toList ∧
      ((convertFile slugify ⟨true, false⟩ "out".toList "a.txt".toList).perform oneLine).2.tree.read
        "out/a.md".toList = .ok (.text "x\r\n".toList) :=
  ⟨by decide +kernel, by decide +kernel, by decide +kernel⟩

end Wikidown.Batch
