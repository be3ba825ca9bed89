import Wikidown.Proofs.BatchPages
import Wikidown.Proofs.Batch.Reports
import Wikidown.Proofs.Files.Passable
import Wikidown.Slug

/-!
# The conversion of one file

A conversion that fails takes no slug and touches no file; one that succeeds takes one slug that was free and writes
one page. Its failures are reported, as long as the paths are proper, the source can be converted and the output
directory can be made.
-/

namespace Wikidown

set_option autoImplicit false

namespace Batch

open FileTree

variable {slugOf : Text → Text} {options : Options} {directory path : Text} {tree after : FileTree}
  {taken : List Text} {result : Except Fault Page.Entry}

/-- A tree in which one file was written, and directories may have been made: everything else is as it was. -/
structure Wrote (tree later : FileTree) (place : Place) (content : Content) : Prop where
  current : later.current = tree.current
  there : later.entry? place = some (.file content)
  free : tree.entry? place ≠ some .directory
  elsewhere : ∀ other, other ≠ place → later.entry? other = tree.entry? other ∨
    tree.entry? other = none ∧ later.entry? other = some .directory

/-- A failed conversion makes directories at most. -/
theorem Outcome.extends_of_error {fault : Fault}
    (outcome : Outcome slugOf options directory path tree taken (.error fault) after) : Extends tree after := by
  have more := FileJob.make_directories_extends directory tree
  cases outcome with
  | unread | unconverted => exact .refl tree
  | homeless _ _ failed => rwa [failed] at more
  | unwritten _ _ home => rwa [home] at more

/-- A conversion that succeeds writes the page and makes directories at most. -/
theorem Outcome.wrote {entry : Page.Entry}
    (outcome : Outcome slugOf options directory path tree taken (.ok entry) after) :
    ∃ source markdown place, readSource tree path = .ok source ∧ convert options source = .ok markdown ∧
      after.locate (pagePath directory entry.slug) = .ok place ∧
      Wrote tree after place (.text (markdown ++ lastLineEnd options)) := by
  have more := FileJob.make_directories_extends directory tree
  cases outcome with
  | @written source markdown made _ read converted home done =>
      rw [home] at more
      have grows := write_grows done
      obtain ⟨_, place, way, other, rfl⟩ := write_iff.mp done
      have inner := ne_nil_of_entry_ne other
      refine ⟨source, markdown, place, read, converted, grows.locate way, more.current, ?_, ?_, ?_⟩
      · rw [entry_set inner, if_pos rfl]
      · exact fun here => other (more.kept here)
      · intro elsewhere apart
        rw [entry_set inner, if_neg apart]
        exact more.entry elsewhere

/-! ## All or nothing -/

/-- No slug was taken and no file was touched: there are more directories at most. -/
structure LeftAlone (session after : Session) : Prop where
  taken : after.taken = session.taken
  files : ∀ place content,
    after.tree.entry? place = some (.file content) ↔ session.tree.entry? place = some (.file content)
  entries : Extends session.tree after.tree

/-- The page of an entry was written: its slug was free, it alone is taken now, and its file in the output directory,
which holds the conversion of the source, is the only one that was touched. -/
structure PageWritten (options : Options) (directory path : Text) (session after : Session)
    (entry : Page.Entry) : Prop where
  title : entry.title = titleOf path
  free : entry.slug ∉ session.taken
  taken : after.taken = entry.slug :: session.taken
  page : ∃ source markdown place, readSource session.tree path = .ok source ∧
    convert options source = .ok markdown ∧ after.tree.locate (pagePath directory entry.slug) = .ok place ∧
      Wrote session.tree after.tree place (.text (markdown ++ lastLineEnd options)) ∧
      ('/' ∉ entry.slug → place = placeNamed session.tree.current directory ++ [pageFile entry.slug])

/-- Whatever goes wrong with a file, its conversion leaves the files and the slugs alone; and if nothing does, it
takes one free slug and writes its page. -/
theorem conversion_all_or_nothing {session after : Session}
    (turn : (convertFile slugOf options directory path).perform session = (result, after)) :
    (∀ fault, result = .error fault → LeftAlone session after) ∧
      ∀ entry, result = .ok entry → PageWritten options directory path session after entry := by
  obtain ⟨outcome, taken⟩ := convert_file_outcome slugOf options directory path session turn
  constructor
  · rintro fault rfl
    have more := outcome.extends_of_error
    exact ⟨taken, fun place content => more.file_iff content, more⟩
  · rintro entry rfl
    obtain ⟨source, markdown, place, read, converted, way, wrote⟩ := outcome.wrote
    have own : entry.title = titleOf path ∧ entry.slug ∉ session.taken := by
      cases outcome with
      | written => exact ⟨rfl, unique_slug_free slugOf (titleOf path) session.taken⟩
    refine ⟨own.1, own.2, taken, source, markdown, place, read, converted, way, wrote, fun plain => ?_⟩
    rw [locate_place way, wrote.current, place_of_page plain]

/-- A name that has room for no extension. -/
def roomlessName : Text := List.replicate 255 'a'

/-- A source with such a name beside one with a short name. -/
def roomless : Session where
  tree :=
    { entries := [(["b.txt".toList], .file (.text "x".toList)), ([roomlessName], .file (.text "y".toList))] }
  taken := ["b".toList]

theorem conversion_all_or_nothing_for_roomless :
    LeftAlone roomless ((convertFile slugify {} "out".toList roomlessName).perform roomless).2 ∧
      PageWritten {} "out".toList "b.txt".toList roomless
        ((convertFile slugify {} "out".toList "b.txt".toList).perform roomless).2
        ⟨"b-1".toList, "b-1".toList, "b".toList⟩ := by
  have failed : ((convertFile slugify {} "out".toList roomlessName).perform roomless).1 =
      .error (.page roomlessName ⟨.nameTooLong, pagePath "out".toList roomlessName⟩) := by decide +kernel
  have written : ((convertFile slugify {} "out".toList "b.txt".toList).perform roomless).1 =
      .ok ⟨"b-1".toList, "b-1".toList, "b".toList⟩ := by decide +kernel
  exact ⟨(conversion_all_or_nothing (Job.perform_of_result failed)).1 _ rfl,
    (conversion_all_or_nothing (Job.perform_of_result written)).2 _ rfl⟩

/-! ## What is reported -/

/-- Where the output directory can be made. The last names of a path that stand for the same directory are not
looked at if the directory before them has to be made. -/
theorem can_make_iff : CanMake tree directory ↔
    Makeable tree directory ∨ (FileJob.parentAndName directory).2 = ".".toList ∧ CanMake tree directory := by
  constructor
  · intro can
    by_cases dot : (FileJob.parentAndName directory).2 = ".".toList
    · exact .inr ⟨dot, can⟩
    · obtain ⟨made, home⟩ := can
      exact .inl (FileJob.makeable_of_made dot home)
  · rintro (makeable | ⟨_, can⟩)
    · obtain ⟨made, home, _⟩ := FileJob.make_makeable makeable
      exact ⟨made, home⟩
    · exact can

/-- The conversion of a file fails with nothing but reports exactly if the path of the source has no NUL character
and, if the source can be read, it can be converted and the output directory can be made. -/
theorem conversion_reported_iff {session after : Session} (plain : '\x00' ∉ slugOf (titleOf path))
    (turn : (convertFile slugOf options directory path).perform session = (result, after)) :
    (∀ fault, result = .error fault → isReported fault = true) ↔
      '\x00' ∉ path ∧ ∀ source, readSource session.tree path = .ok source →
        (∃ markdown, convert options source = .ok markdown) ∧
          (Makeable session.tree directory ∨
            (FileJob.parentAndName directory).2 = ".".toList ∧ CanMake session.tree directory) := by
  obtain ⟨outcome, _⟩ := convert_file_outcome slugOf options directory path session turn
  rw [outcome.reported_iff plain]
  simp only [← can_make_iff]

/-- A session with a file in the place of the output directory. -/
def occupied : Session where
  tree := { entries := [(["a.txt".toList], .file (.text "x".toList)), (["out".toList], .file (.text "y".toList))] }

theorem conversion_reported_iff_of_occupied :
    '\x00' ∉ slugify (titleOf "a.txt".toList) ∧
      ((∀ fault, (Except.error (.file ⟨.entryExists, "out".toList⟩) : Except Fault Page.Entry) = .error fault →
        isReported fault = true) ↔
      '\x00' ∉ "a.txt".toList ∧ ∀ source, readSource occupied.tree "a.txt".toList = .ok source →
        (∃ markdown, convert {} source = .ok markdown) ∧
          (Makeable occupied.tree "out".toList ∨
            (FileJob.parentAndName "out".toList).2 = ".".toList ∧ CanMake occupied.tree "out".toList)) := by
  have failed : ((convertFile slugify {} "out".toList "a.txt".toList).perform occupied).1 =
      .error (.file ⟨.entryExists, "out".toList⟩) := by decide +kernel
  have plain := nul_not_mem_slugify (titleOf "a.txt".toList)
  exact ⟨plain, conversion_reported_iff plain (Job.perform_of_result failed)⟩

/-- A file in the place of the output directory is met with an error that is not reported. -/
theorem occupied_directory_unreported :
    ((convertFile slugify {} "out".toList "a.txt".toList).perform occupied).1 =
        .error (.file ⟨.entryExists, "out".toList⟩) ∧
      isReported (.file ⟨.entryExists, "out".toList⟩) = false := ⟨by decide +kernel, rfl⟩

end Batch

end Wikidown
