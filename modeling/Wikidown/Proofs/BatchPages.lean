import Wikidown.Proofs.Batch.Links
import Wikidown.Proofs.Batch.Turns

/-!
# The pages of a batch

A batch gives each source that it converts a slug of its own and a page under it. No later turn touches the
page, and the links in it are pointed at pages of the batch only.
-/

namespace Wikidown

set_option autoImplicit false

namespace Batch

open FileTree

variable {slugOf : Text → Text} {options : Options} {directory path slug : Text} {tree after : FileTree}
  {taken : List Text} {result : Except Fault Page.Entry} {content : Content}

/-! ## Files of pages -/

theorem page_file_inj {first second : Text} (same : pageFile first = pageFile second) : first = second :=
  List.append_cancel_right same

theorem place_of_page (plain : '/' ∉ slug) (current : Place) (directory : Text) :
    placeNamed current (pagePath directory slug) = placeNamed current directory ++ [pageFile slug] := by
  refine place_named_join ?_ ⟨?_, ?_, ?_⟩ current directory
  · simp [pageFile, plain]
  · simp [pageFile]
  · intro same
    have long := congrArg List.length same
    simp [pageFile] at long
  · intro same
    have long := congrArg List.length same
    simp [pageFile] at long

/-- Pages of one directory with different slugs are different files. -/
theorem place_of_page_apart {other : Text} (plain : '/' ∉ slug) (plainToo : '/' ∉ other)
    (apart : slug ≠ other) (current : Place) (directory : Text) :
    placeNamed current (pagePath directory slug) ≠ placeNamed current (pagePath directory other) := by
  rw [place_of_page plain, place_of_page plainToo]
  intro same
  exact apart (page_file_inj (List.singleton_inj.mp (List.append_cancel_left same)))

/-! ## Turns leave pages alone -/

/-- A turn leaves the pages with taken slugs as they are. -/
theorem Outcome.read_kept (outcome : Outcome slugOf options directory path tree taken result after)
    (plain : '/' ∉ slugOf (titleOf path)) (own : '/' ∉ slug) (known : slug ∈ taken)
    (found : tree.read (pagePath directory slug) = .ok content) :
    after.read (pagePath directory slug) = .ok content := by
  have extended := (FileJob.make_directories_extends directory tree).read found
  have current := (FileJob.make_directories_extends directory tree).current
  cases outcome with
  | unread | unconverted => exact found
  | homeless _ _ failed =>
      rw [failed] at extended
      exact extended
  | unwritten _ _ home =>
      rw [home] at extended
      exact extended
  | written _ _ home done =>
      rw [home] at extended
      refine read_of_write_elsewhere done extended (place_of_page_apart own
        (slash_not_mem_unique_slug plain taken) ?_ _ directory)
      intro same
      exact unique_slug_free slugOf (titleOf path) taken (same ▸ known)

theorem mem_taken_after (known : slug ∈ taken) : slug ∈ takenAfter result taken := by
  cases result with
  | ok entry => exact List.mem_cons_of_mem _ known
  | error fault => exact known

theorem files_after_read_kept {paths : List Text} (plain : ∀ path ∈ paths, '/' ∉ slugOf (titleOf path))
    (own : '/' ∉ slug) (known : slug ∈ taken) (found : tree.read (pagePath directory slug) = .ok content) :
    (filesAfter slugOf options directory paths tree taken).read (pagePath directory slug) = .ok content := by
  induction paths generalizing tree taken with
  | nil => exact found
  | cons path rest ih =>
      obtain ⟨result, after, outcome, -, final⟩ := turns_cons slugOf options directory path rest tree taken
      rw [List.forall_mem_cons] at plain
      rw [final]
      exact ih plain.2 (mem_taken_after known) (outcome.read_kept plain.1 own known found)

/-- The page of each turn is in its file when all turns are over. -/
theorem turns_pages {paths : List Text} (plain : ∀ path ∈ paths, '/' ∉ slugOf (titleOf path))
    (tree : FileTree) (taken : List Text) :
    ∀ turn ∈ turns slugOf options directory paths tree taken, ∀ entry, turn.result = .ok entry →
      '/' ∉ entry.slug ∧ ∃ source markdown, readSource turn.files turn.path = .ok source ∧
        convert options source = .ok markdown ∧
        (filesAfter slugOf options directory paths tree taken).read (pagePath directory entry.slug) =
          .ok (.text (markdown ++ lastLineEnd options)) := by
  induction paths generalizing tree taken with
  | nil => simp [turns]
  | cons path rest ih =>
      obtain ⟨result, after, outcome, all, final⟩ := turns_cons slugOf options directory path rest tree taken
      rw [List.forall_mem_cons] at plain
      rw [all, final, List.forall_mem_cons]
      refine ⟨?_, ih plain.2 after _⟩
      rintro entry rfl
      cases outcome with
      | @written source markdown made final read converted home done =>
          have own := slash_not_mem_unique_slug plain.1 taken
          exact ⟨own, source, markdown, read, converted,
            files_after_read_kept plain.2 own List.mem_cons_self (read_of_write done)⟩

/-! ## Pointing the links at pages -/

section Links

variable {index : Page.Index} {session finished : Session} {changed : Nat}

/-- The page is read back with its links pointed at the pages of the index. -/
theorem update_links_page {text : Text} (found : session.tree.read path = .ok (.text text))
    (done : (updateLinks slugOf index path).perform session = (.ok changed, finished)) :
    finished.tree.read path = .ok (.text (Page.redirect (Page.resolve slugOf index) text)) := by
  rcases @update_links_of_text slugOf index session path text found with
    ⟨none, run⟩ | ⟨_, tree, written, run⟩
  · obtain rfl := (Prod.mk.inj (run.symm.trans done)).2
    rw [found, Page.redirect_of_none none]
  · obtain rfl := (Prod.mk.inj (run.symm.trans done)).2
    exact read_of_write written

theorem update_links_elsewhere {elsewhere : Text} (found : session.tree.read path = .ok content)
    (apart : placeNamed session.tree.current path ≠ placeNamed session.tree.current elsewhere)
    (done : (updateLinks slugOf index elsewhere).perform session = (.ok changed, finished)) :
    finished.tree.read path = .ok content := by
  rcases update_links_tree done with kept | ⟨written, same⟩
  · rwa [kept]
  · exact read_of_write_elsewhere same found apart

variable {entry : Page.Entry} {pages : List Page.Entry}

theorem update_all_links_cons
    (done : (updateAllLinks slugOf directory index (entry :: pages)).perform session =
      (.ok changed, finished)) :
    ∃ here between rest,
      (updateLinks slugOf index (pagePath directory entry.slug)).perform session = (.ok here, between) ∧
        (updateAllLinks slugOf directory index pages).perform between = (.ok rest, finished) := by
  rw [updateAllLinks, Job.perform_bind_ok] at done
  obtain ⟨here, between, first, done⟩ := done
  rw [Job.perform_bind_ok] at done
  obtain ⟨rest, last, others, done⟩ := done
  obtain rfl : last = finished := (Prod.mk.inj done).2
  exact ⟨here, between, rest, first, others⟩

/-- The page of a slug that is not among the pages stays as it is. -/
theorem update_all_links_elsewhere (plain : ∀ page ∈ pages, '/' ∉ page.slug) (own : '/' ∉ slug)
    (apart : slug ∉ pages.map Page.Entry.slug)
    (found : session.tree.read (pagePath directory slug) = .ok content)
    (done : (updateAllLinks slugOf directory index pages).perform session = (.ok changed, finished)) :
    finished.tree.read (pagePath directory slug) = .ok content := by
  induction pages generalizing session changed with
  | nil =>
      rw [← (Prod.mk.inj done).2]
      exact found
  | cons page pages ih =>
      obtain ⟨here, between, rest, first, others⟩ := update_all_links_cons done
      rw [List.forall_mem_cons] at plain
      rw [List.map_cons, List.mem_cons, not_or] at apart
      refine ih plain.2 apart.2 (update_links_elsewhere found ?_ first) others
      exact place_of_page_apart own plain.1 apart.1 _ directory

/-- Each page is read back with its links pointed at the pages of the index. -/
theorem update_all_links_page {text : Text} (plain : ∀ page ∈ pages, '/' ∉ page.slug)
    (distinct : (pages.map Page.Entry.slug).Nodup) (member : entry ∈ pages)
    (found : session.tree.read (pagePath directory entry.slug) = .ok (.text text))
    (done : (updateAllLinks slugOf directory index pages).perform session = (.ok changed, finished)) :
    finished.tree.read (pagePath directory entry.slug) =
      .ok (.text (Page.redirect (Page.resolve slugOf index) text)) := by
  induction pages generalizing session changed with
  | nil => simp at member
  | cons page pages ih =>
      obtain ⟨here, between, rest, first, others⟩ := update_all_links_cons done
      rw [List.forall_mem_cons] at plain
      rw [List.map_cons, List.nodup_cons] at distinct
      rcases List.mem_cons.mp member with rfl | later
      · exact update_all_links_elsewhere plain.2 plain.1 distinct.1
          (update_links_page found first) others
      · refine ih plain.2 distinct.2 later (update_links_elsewhere found ?_ first) others
        refine place_of_page_apart (plain.2 entry later) plain.1 ?_ _ directory
        intro same
        exact distinct.1 (same ▸ List.mem_map_of_mem later)

end Links

/-! ## What a batch leaves -/

/-- A batch in which no page has come to harm. The index has exactly one entry for each turn that wrote a
page, and no two of them the same slug. Links are redirected to the files of its pages only. As long as
slugs have no slashes, the file of each page holds the conversion of its source, as read at its turn, with
these links redirected. -/
structure Intact (slugOf : Text → Text) (options : Options) (directory : Text) (turns : List Turn)
    (index : Page.Index) (tree : FileTree) : Prop where
  entries : index = writtenPages turns
  distinct : (index.map Page.Entry.slug).Nodup
  targets : ∀ target file, Page.resolve slugOf index target = some file →
    ∃ entry ∈ index, file = pageFile entry.slug
  pages : (∀ turn ∈ turns, '/' ∉ slugOf (titleOf turn.path)) →
    ∀ turn ∈ turns, ∀ entry, turn.result = .ok entry →
      ∃ source markdown, readSource turn.files turn.path = .ok source ∧
        convert options source = .ok markdown ∧
        tree.read (pagePath directory entry.slug) =
          .ok (.text (Page.redirect (Page.resolve slugOf index) (markdown ++ lastLineEnd options)))

/-- Whatever the sources, their names and the way to make slugs are, a batch leaves its pages intact. -/
theorem pages_intact {session converted finished : Session} {index : Page.Index} {paths : List Text}
    {failures changed : Nat}
    (pages : (convertAll slugOf options directory paths).perform session =
      (.ok (index, failures), converted))
    (links : (updateAllLinks slugOf directory index index).perform converted = (.ok changed, finished)) :
    Intact slugOf options directory (turns slugOf options directory paths session.tree []) index
      finished.tree := by
  obtain ⟨-, rfl, -, tree⟩ := convert_all_turns pages
  have distinct := (turns_fresh slugOf options directory paths session.tree []).1
  refine ⟨rfl, distinct, fun target file => Page.resolve_in_index, fun plain turn member entry made => ?_⟩
  have plainPaths : ∀ path ∈ paths, '/' ∉ slugOf (titleOf path) := by
    intro path source
    rw [← turns_paths slugOf options directory paths session.tree []] at source
    obtain ⟨turn, member, rfl⟩ := List.mem_map.mp source
    exact plain turn member
  have written := @turns_pages slugOf options directory paths plainPaths session.tree []
  obtain ⟨own, source, markdown, read, converts, page⟩ := written turn member entry made
  refine ⟨source, markdown, read, converts, update_all_links_page ?_ distinct
    (mem_written_pages.mpr ⟨turn, member, made⟩) (tree ▸ page) links⟩
  intro other there
  obtain ⟨last, among, same⟩ := mem_written_pages.mp there
  exact (written last among other same).1

/-- A session with two sources named alike, the first of them with a link to a third one. -/
def namesakes : Session where
  tree :=
    { entries := [(["notes.txt".toList], .file (.text "[[next>plan]]".toList)), (["old".toList], .directory),
        (["old".toList, "notes.txt".toList], .file (.text "x".toList)),
        (["plan.txt".toList], .file (.text "y".toList))] }

/-- The sources of `namesakes`, and one that is missing. -/
def namesakePaths : List Text :=
  ["notes.txt".toList, "lost.txt".toList, "old/notes.txt".toList, "plan.txt".toList]

def namesakePages : Page.Index :=
  [⟨"notes".toList, "notes".toList, "notes".toList⟩, ⟨"notes-1".toList, "notes-1".toList, "notes".toList⟩,
    ⟨"plan".toList, "plan".toList, "plan".toList⟩]

theorem pages_intact_with_namesakes :
    ((convertAll slugify {} "out".toList namesakePaths).perform namesakes).1 = .ok (namesakePages, 1) ∧
      ((updateAllLinks slugify "out".toList namesakePages namesakePages).perform
        ((convertAll slugify {} "out".toList namesakePaths).perform namesakes).2).1 = .ok 1 ∧
      Intact slugify {} "out".toList (turns slugify {} "out".toList namesakePaths namesakes.tree [])
        namesakePages
        ((updateAllLinks slugify "out".toList namesakePages namesakePages).perform
          ((convertAll slugify {} "out".toList namesakePaths).perform namesakes).2).2.tree ∧
      ∀ path ∈ namesakePaths, '/' ∉ slugify (titleOf path) := by
  have pages : ((convertAll slugify {} "out".toList namesakePaths).perform namesakes).1 =
      .ok (namesakePages, 1) := by decide +kernel
  have links : ((updateAllLinks slugify "out".toList namesakePages namesakePages).perform
      ((convertAll slugify {} "out".toList namesakePaths).perform namesakes).2).1 = .ok 1 := by decide +kernel
  exact ⟨pages, links, pages_intact (Job.perform_of_result pages) (Job.perform_of_result links),
    fun path _ => slash_not_mem_slugify (titleOf path)⟩

end Batch

end Wikidown
