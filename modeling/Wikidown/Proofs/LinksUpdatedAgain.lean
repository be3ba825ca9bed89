import Wikidown.Proofs.Batch.Rounds
import Wikidown.Proofs.Page.Redirected
import Wikidown.Proofs.Text.Blank

/-!
# Updating links once more

Nothing tells the file that a link has been pointed at from the name of a page. So a second round over the pages
of a batch takes the files in links for names once more: a link that the first round pointed at the file of a
page is pointed at another page if the file has the title of one, or has its slug made of it. All other links
stay as the first round left them.
-/

namespace Wikidown

set_option autoImplicit false

variable {slugOf : Text → Text} {slug title : Text} {titles taken : List Text}

/-- A text that is written with hyphens, letters and digits. -/
def Sluggish (slug : Text) : Prop := ∀ c ∈ slug, c = '-' ∨ c.isAlphanum = true

theorem sluggish_slugify (title : Text) : Sluggish (slugify title) := fun _ => mem_slugify

theorem sluggish_unique_slug (plain : Sluggish (slugOf title)) (taken : List Text) :
    Sluggish (uniqueSlug slugOf title taken) := by
  intro c member
  by_contra strange
  rw [not_or] at strange
  have untitled : ∀ d ∈ "untitled-".toList, d = '-' ∨ d.isAlphanum = true := by
    rw [← List.all_iff_forall_prop]
    decide
  refine not_mem_unique_slug (fun inside => ?_) (fun inside => ?_) ?_ taken member
  · exact (plain c inside).elim strange.1 strange.2
  · exact (untitled c inside).elim strange.1 strange.2
  · rw [Char.isAlphanum, Bool.or_eq_true, not_or] at strange
    simpa using strange.2.2

theorem Sluggish.slash_not_mem (plain : Sluggish slug) : '/' ∉ slug := by
  intro member
  rcases plain '/' member with hyphen | letter
  · exact absurd hyphen (by decide)
  · exact absurd letter (by decide)

/-! ## Files as names -/

/-- A letter or a digit has one of the numbers of these in ASCII. -/
theorem alphanum_range {c : Char} (letter : c.isAlphanum = true) : 0x30 ≤ c.toNat ∧ c.toNat ≤ 0x7A := by
  have between {low high : Char} (above : low.val ≤ c.val) (below : c.val ≤ high.val) (floor : 0x30 ≤ low.toNat)
      (ceiling : high.toNat ≤ 0x7A) : 0x30 ≤ c.toNat ∧ c.toNat ≤ 0x7A :=
    ⟨floor.trans (UInt32.le_iff_toNat_le.mp above), (UInt32.le_iff_toNat_le.mp below).trans ceiling⟩
  rcases Bool.or_eq_true_iff.mp letter with alpha | digit
  · rcases Bool.or_eq_true_iff.mp alpha with upper | lower
    · have inside := of_decide_eq_true upper
      exact @between 'A' 'Z' inside.1 inside.2 (by decide) (by decide)
    · have inside := Bool.and_eq_true_iff.mp lower
      exact @between 'a' 'z' (of_decide_eq_true inside.1) (of_decide_eq_true inside.2) (by decide) (by decide)
  · have inside := Bool.and_eq_true_iff.mp digit
    exact @between '0' '9' (of_decide_eq_true inside.1) (of_decide_eq_true inside.2) (by decide) (by decide)

/-- The characters of the files of pages. -/
theorem mem_page_file {c : Char} (plain : Sluggish slug) (member : c ∈ pageFile slug) :
    c = '-' ∨ c = '.' ∨ c.isAlphanum = true := by
  rcases List.mem_append.mp member with inside | ending
  · exact (plain c inside).imp id .inr
  · have extension : ∀ d ∈ ".md".toList, d = '-' ∨ d = '.' ∨ d.isAlphanum = true := by
      rw [← List.all_iff_forall_prop]
      decide
    exact extension c ending

theorem page_file_visible (plain : Sluggish slug) : ∀ c ∈ pageFile slug,
    isBlank c = false ∧ Page.isLineEnd c = false ∧ Page.isSchemeChar c = true ∧ c ≠ ')' ∧ c ≠ '#' := by
  intro c member
  rcases mem_page_file plain member with rfl | rfl | letter
  · decide
  · decide
  · have range := alphanum_range letter
    refine ⟨?_, ?_, by simp [Page.isSchemeChar, letter], ?_, ?_⟩
    · simp [isBlank]
      omega
    · simp [Page.isLineEnd]
      omega
    · rintro rfl
      exact absurd letter (by decide)
    · rintro rfl
      exact absurd letter (by decide)

theorem page_file_ne_nil (slug : Text) : pageFile slug ≠ [] := by simp [pageFile]

theorem linkable_page_file (plain : Sluggish slug) : Page.Linkable (pageFile slug) where
  nonempty := page_file_ne_nil slug
  unended member := (page_file_visible plain ')' member).2.2.2.1 rfl
  whole c member := (page_file_visible plain c member).2.1

/-- The file of a page is no address outside of the pages. -/
theorem page_file_internal (plain : Sluggish slug) : Page.isExternal (pageFile slug) = false := by
  have visible := page_file_visible plain
  obtain ⟨c, rest, shape⟩ := List.exists_cons_of_ne_nil (page_file_ne_nil slug)
  rw [shape, List.forall_mem_cons] at visible
  have scheme : rest.dropWhile Page.isSchemeChar = [] :=
    List.dropWhile_eq_nil_iff.mpr fun d member => (visible.2 d member).2.2.1
  rw [shape, Page.isExternal]
  · rw [scheme, Bool.and_eq_false_iff]
    exact .inr rfl
  · exact visible.1.2.2.2.2

/-- A file is looked up as the name that it is: as a title, and then by the slug that is made of it. -/
theorem resolve_page_file (plain : Sluggish slug) (index : Page.Index) :
    Page.resolve slugOf index (pageFile slug) =
      ((index.find? fun entry => entry.title = pageFile slug).or
        (index.find? fun entry => entry.key = slugOf (pageFile slug))).map fun entry => pageFile entry.slug := by
  have whole : trim (pageFile slug) = pageFile slug :=
    trim_of_visible fun c member => (page_file_visible plain c member).1
  rw [Page.resolve]
  dsimp only
  rw [whole, page_file_internal plain, if_neg]
  simp [page_file_ne_nil]

namespace Batch

open FileTree

variable {directory : Text} {session between : Session} {changed : Nat}

/-- The index of a batch is that of pages with some titles. -/
theorem index_of_batch {options : Options} {paths : List Text} {index : Page.Index} {failures : Nat}
    (done : (convertAll slugOf options directory paths).perform session = (.ok (index, failures), between)) :
    ∃ titles, index = pagesOf slugOf titles [] := by
  obtain ⟨_, rfl, _⟩ := convert_all_turns done
  exact exists_titles slugOf options directory paths session.tree []

theorem pages_of_plain (plain : ∀ title, Sluggish (slugOf title)) {entry : Page.Entry}
    (member : entry ∈ pagesOf slugOf titles taken) : Sluggish entry.slug := by
  obtain ⟨_, earlier, same⟩ := pages_of_slug member
  rw [same]
  exact sluggish_unique_slug (plain entry.title) earlier

/-- The pages of a batch stand in different places. -/
theorem pages_of_apart (plain : ∀ title, Sluggish (slugOf title)) (titles : List Text) (directory : Text)
    (current : Place) :
    ((pagePaths directory (pagesOf slugOf titles [])).map (placeNamed current)).Nodup := by
  have paths : pagePaths directory (pagesOf slugOf titles []) =
      ((pagesOf slugOf titles []).map Page.Entry.slug).map (pagePath directory) := by
    rw [List.map_map]
    rfl
  have slashless : ∀ slug ∈ (pagesOf slugOf titles []).map Page.Entry.slug, '/' ∉ slug := by
    rw [List.forall_mem_map]
    exact fun entry member => (pages_of_plain plain member).slash_not_mem
  rw [paths, List.map_map]
  refine (pages_of_fresh slugOf titles []).1.map_on fun slug member other memberToo same => ?_
  by_contra distinct
  exact place_of_page_apart (slashless slug member) (slashless other memberToo) distinct current directory same

/-- Links are pointed at the files of pages, which can stand in any link. -/
theorem linkable_of_resolve (plain : ∀ title, Sluggish (slugOf title)) {target file : Text}
    (resolved : Page.resolve slugOf (pagesOf slugOf titles taken) target = some file) : Page.Linkable file := by
  obtain ⟨entry, member, rfl⟩ := Page.resolve_in_index resolved
  exact linkable_page_file (pages_of_plain plain member)

/-- The file of a page names a page when it is its title, or its slug is made of it. -/
theorem page_file_named_iff (plain : ∀ title, Sluggish (slugOf title)) {entry : Page.Entry}
    (member : entry ∈ pagesOf slugOf titles []) :
    (Page.resolve slugOf (pagesOf slugOf titles []) (pageFile entry.slug)).isSome = true ↔
      ∃ other ∈ pagesOf slugOf titles [],
        other.title = pageFile entry.slug ∨ other.slug = slugOf (pageFile entry.slug) := by
  rw [resolve_page_file (pages_of_plain plain member), Option.isSome_map, Option.isSome_or, Bool.or_eq_true,
    List.find?_isSome, List.find?_isSome]
  simp only [decide_eq_true_eq]
  constructor
  · rintro (⟨other, there, same⟩ | ⟨other, there, same⟩)
    · exact ⟨other, there, .inl same⟩
    · exact ⟨other, there, .inr ((pages_of_slug there).1.symm.trans same)⟩
  · rintro ⟨other, there, same | same⟩
    · exact .inl ⟨other, there, same⟩
    · exact .inr ⟨other, there, (pages_of_slug there).1.trans same⟩

/-- What a second round over the pages of an index makes of the files that the first one left `between`: it
changes `again` links. -/
structure UpdatedAgain (slugOf : Text → Text) (index : Page.Index) (directory : Text)
    (session between finished : Session) (again : Nat) : Prop where
  /-- Links change that name a page whose file names a page. -/
  count : again = ((pagePaths directory index).map fun path =>
    redirectedIn (fun target => (Page.resolve slugOf index target).bind (Page.resolve slugOf index))
      (session.tree.read path)).sum
  first : ∀ path ∈ pagePaths directory index,
    between.tree.read path = redirectIn (Page.resolve slugOf index) (session.tree.read path)
  /-- A link that names a page leads to the page that its file names, if there is one. -/
  pages : ∀ path ∈ pagePaths directory index,
    finished.tree.read path = redirectIn (Page.twice (Page.resolve slugOf index)) (session.tree.read path)
  elsewhere : ∀ path,
    placeNamed between.tree.current path ∉ (pagePaths directory index).map (placeNamed between.tree.current) →
      finished.tree.read path = between.tree.read path
  unwritten : again = 0 → finished.tree = between.tree
  /-- The files that name a page. -/
  named : ∀ entry ∈ index, (Page.resolve slugOf index (pageFile entry.slug)).isSome = true ↔
    ∃ other ∈ index, other.title = pageFile entry.slug ∨ other.slug = slugOf (pageFile entry.slug)
  /-- No link changes if no file names a page. -/
  settled : (∀ entry ∈ index, ∀ other ∈ index,
    other.title ≠ pageFile entry.slug ∧ other.slug ≠ slugOf (pageFile entry.slug)) → again = 0

theorem redirected_in_none (found : Except FileError Content) : redirectedIn (fun _ => none) found = 0 := by
  rcases found with _ | text | _
  · rfl
  · refine List.countP_eq_zero.mpr fun piece _ => ?_
    cases piece <;> simp [Page.Piece.isRedirected]
  · rfl

section Again

variable {resolve? : Text → Option Text} (linkable : ∀ target file, resolve? target = some file → Page.Linkable file)
  (found : Except FileError Content)

include linkable

/-- The links that are redirected once more in what is read of a page. -/
theorem redirected_in_again : redirectedIn resolve? (redirectIn resolve? found) =
    redirectedIn (fun target => (resolve? target).bind resolve?) found := by
  rcases found with _ | text | _
  · rfl
  · exact Page.redirected_again linkable text
  · rfl

theorem redirect_in_again :
    redirectIn resolve? (redirectIn resolve? found) = redirectIn (Page.twice resolve?) found := by
  rcases found with _ | text | _
  · rfl
  · exact congrArg (Except.ok ∘ Content.text) (Page.redirect_again linkable text)
  · rfl

end Again

/-- Whatever the titles of the pages of a batch and the contents of their files are: when a round of updating
the links has come to its end, a second one does so too. It changes the links whose new file names a page, and
no others. -/
theorem links_updated_again (plain : ∀ title, Sluggish (slugOf title)) (titles : List Text)
    (first : (updateAllLinks slugOf directory (pagesOf slugOf titles []) (pagesOf slugOf titles [])).perform session =
      (.ok changed, between)) :
    ∃ again finished,
      (updateAllLinks slugOf directory (pagesOf slugOf titles []) (pagesOf slugOf titles [])).perform between =
        (.ok again, finished) ∧
      UpdatedAgain slugOf (pagesOf slugOf titles []) directory session between finished again := by
  have apart := pages_of_apart plain titles directory session.tree.current
  have updatable := updatable_of_all_updated apart first
  obtain ⟨_, after, run, round⟩ := update_all_links_round slugOf (pagesOf slugOf titles []) updatable apart
  obtain rfl : after = between := (Prod.mk.inj (run.symm.trans first)).2
  obtain ⟨again, finished, second, roundAgain⟩ := update_all_links_round slugOf (pagesOf slugOf titles [])
    (fun path member => by
      rw [round.pages path member]
      exact updatable_redirect (updatable path member))
    (pages_of_apart plain titles directory after.tree.current)
  have linkable := fun target file => @linkable_of_resolve slugOf titles [] plain target file
  have count : again = ((pagePaths directory (pagesOf slugOf titles [])).map fun path =>
      redirectedIn (fun target => (Page.resolve slugOf (pagesOf slugOf titles []) target).bind
        (Page.resolve slugOf (pagesOf slugOf titles []))) (session.tree.read path)).sum := by
    rw [roundAgain.count]
    congr 1
    refine List.map_congr_left fun path member => ?_
    rw [round.pages path member, redirected_in_again linkable]
  have named := fun entry member => @page_file_named_iff slugOf titles plain entry member
  refine ⟨again, finished, second, count, round.pages, fun path member => ?_, roundAgain.elsewhere,
    roundAgain.unwritten, named, fun settled => ?_⟩
  · rw [roundAgain.pages path member, round.pages path member, redirect_in_again linkable]
  · have nowhere : (fun target => (Page.resolve slugOf (pagesOf slugOf titles []) target).bind
        (Page.resolve slugOf (pagesOf slugOf titles []))) = fun _ => none := by
      funext target
      rw [Option.bind_eq_none_iff]
      intro file resolved
      obtain ⟨entry, member, rfl⟩ := Page.resolve_in_index resolved
      rw [← Option.not_isSome_iff_eq_none, named entry member]
      rintro ⟨other, there, same | same⟩
      · exact (settled entry member other there).1 same
      · exact (settled entry member other there).2 same
    rw [count, nowhere]
    simp [redirected_in_none]

/-- Titles of which the second one is the file of the first page. The third page is missing below. -/
def fileTitles : List Text := ["b".toList, "b.md".toList, "lost".toList]

/-- Files with a link to the page that is called like the file of another one, and a link in code. -/
def fileSession : Session where
  tree :=
    { entries := [(["out".toList], .directory),
        (["out".toList, "b.md".toList], .file (.text "[x](b) [y](B)\n\x60\x60\x60\n[z](b)\n".toList)),
        (["out".toList, "b-md.md".toList], .file (.text "[x](lost)".toList))] }

/-- One round through the files of the pages with these titles. -/
def fileRound (session : Session) : Except Fault Nat × Session :=
  (updateAllLinks slugify "out".toList (pagesOf slugify fileTitles []) (pagesOf slugify fileTitles [])).perform
    session

theorem links_updated_again_through_file :
    ∃ again finished, fileRound (fileRound fileSession).2 = (.ok again, finished) ∧
      UpdatedAgain slugify (pagesOf slugify fileTitles []) "out".toList fileSession (fileRound fileSession).2
        finished again :=
  have first : (fileRound fileSession).1 = .ok 3 := by decide +kernel
  links_updated_again sluggish_slugify fileTitles (Job.perform_of_result first)

/-- The second round changes links again, though the first one pointed them at the file of a page. -/
theorem file_redirected_again :
    (fileRound fileSession).2.tree.read "out/b.md".toList =
        .ok (.text "[x](b.md) [y](b.md)\n\x60\x60\x60\n[z](b)\n".toList) ∧
      (fileRound (fileRound fileSession).2).1 = .ok 2 ∧
      (fileRound (fileRound fileSession).2).2.tree.read "out/b.md".toList =
        .ok (.text "[x](b-md.md) [y](b-md.md)\n\x60\x60\x60\n[z](b)\n".toList) := by
  decide +kernel

end Batch

end Wikidown
