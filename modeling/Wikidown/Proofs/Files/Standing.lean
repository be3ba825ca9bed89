import Wikidown.Proofs.Files.Directory

/-!
# Directories that are there

A directory that is there is made without any effect, as long as its path is not too long. It makes no
difference whether it is named by a path or by the normal form of the path, except for the length.
-/

namespace Wikidown

set_option autoImplicit false

namespace FileTree

variable {tree later : FileTree} {place here : Place} {path : Text} {names : List Text}

/-- A path that leads to a directory, however long it is. -/
structure Standing (tree : FileTree) (path : Text) : Prop where
  clean : '\x00' ∉ path
  named : path ≠ []
  way : ∃ place, tree.walk (start tree.current path) (pieces '/' path) = .ok place ∧
    tree.entry? place = some .directory

theorem is_directory_iff_stands :
    tree.isDirectory path = true ↔ byteLength path ≤ pathLimit ∧ Standing tree path := by
  rw [is_directory_iff]
  constructor
  · rintro ⟨place, found, directory⟩
    obtain ⟨clean, named, short, way⟩ := locate_iff.mp found
    exact ⟨short, clean, named, place, way, directory⟩
  · rintro ⟨short, clean, named, place, way, directory⟩
    exact ⟨place, locate_iff.mpr ⟨clean, named, short, way⟩, directory⟩

theorem Standing.grows (stands : Standing tree path) (grows : Grows tree later) : Standing later path := by
  obtain ⟨clean, named, place, way, directory⟩ := stands
  exact ⟨clean, named, place, grows.current ▸ grows.walk way, grows.directory place directory⟩

theorem byte_length_le {front text : Text} (begins : front <+: text) : byteLength front ≤ byteLength text := by
  obtain ⟨back, rfl⟩ := begins
  rw [byteLength, byteLength, String.ofList_append, String.utf8ByteSize_append]
  exact Nat.le_add_right _ _

theorem locate_too_long (clean : '\x00' ∉ path) (long : pathLimit < byteLength path) :
    tree.locate path = .error .nameTooLong := by
  have named : path ≠ [] := by
    rintro rfl
    exact absurd long (by decide)
  rw [locate, if_neg (by simpa using clean), if_neg (by simpa using named), if_pos long]

theorem nul_without_end_slashes (nul : '\x00' ∈ path) : '\x00' ∈ withoutEndSlashes path := by
  obtain ⟨_, count, shape⟩ := end_slashes_split (List.ne_nil_of_mem nul)
  rw [shape, List.mem_append] at nul
  exact nul.resolve_right fun slash => absurd (List.eq_of_mem_replicate slash) (by decide)

theorem new_place_short (found : tree.newPlace path = .ok place) : byteLength path ≤ pathLimit := by
  by_contra long
  by_cases clean : '\x00' ∈ path
  · exact (locate_iff.mp (locate_of_new_place found)).1 (nul_without_end_slashes clean)
  · rw [newPlace, locate_too_long clean (Nat.lt_of_not_le long)] at found
    simp at found

theorem walk_slashes (directory : tree.entry? here = some .directory) (count : Nat) :
    tree.walk here (List.replicate count []) = .ok here := by
  induction count with
  | zero => rfl
  | succ count ih => exact walk_cons_iff.mpr ⟨directory, by decide, ih⟩

/-- A path leads to the directory that it leads to without the slashes at its end. -/
theorem stands_of_end_slashes (found : tree.locate (withoutEndSlashes path) = .ok place)
    (directory : tree.entry? place = some .directory) (named : path ≠ []) : Standing tree path := by
  obtain ⟨clean, _, _, way⟩ := locate_iff.mp found
  obtain ⟨visible, count, shape⟩ := end_slashes_split named
  refine ⟨?_, named, place, ?_, directory⟩
  · rw [shape, List.mem_append, not_or]
    exact ⟨clean, fun slash => absurd (List.eq_of_mem_replicate slash) (by decide)⟩
  · rw [shape, start_append _ visible, pieces_end_slashes]
    exact walk_append_iff.mpr ⟨place, way, walk_slashes directory count⟩

/-! ## The directories on the way -/

theorem Standing.front {front back : Text} (stands : Standing tree (front ++ '/' :: back)) (named : front ≠ []) :
    Standing tree front := by
  obtain ⟨clean, _, place, way, _⟩ := stands
  rw [start_append _ named, pieces_append_separator, walk_append_iff] at way
  obtain ⟨between, first, rest⟩ := way
  refine ⟨fun member => clean (List.mem_append_left _ member), named, between, first, ?_⟩
  obtain ⟨name, names, shape⟩ := List.exists_cons_of_ne_nil (pieces_ne_nil '/' back)
  rw [shape] at rest
  exact (walk_cons_iff.mp rest).1

theorem stands_root (tree : FileTree) {slashes : Text} (named : slashes ≠ []) (all : ∀ c ∈ slashes, c = '/') :
    Standing tree slashes := by
  obtain ⟨count, rfl⟩ : ∃ count, slashes = List.replicate (count + 1) '/' := by
    refine ⟨slashes.length - 1, List.eq_replicate_iff.mpr ⟨?_, all⟩⟩
    have some := List.length_pos_iff.mpr named
    omega
  refine ⟨fun nul => absurd (all _ nul) (by decide), named, [], ?_, rfl⟩
  have split : pieces '/' (List.replicate (count + 1) '/') = List.replicate (count + 2) [] := by
    have empty := pieces_end_slashes [] (count + 1)
    rwa [List.nil_append] at empty
  rw [split, List.replicate_succ, start_cons, if_pos rfl]
  exact walk_slashes rfl _

/-- Between its directory and its name a path has a slash, unless the directory is nothing but slashes. -/
theorem directory_split (path : Text) : ∃ count,
    path = Path.directory path ++ (List.replicate count '/' ++ Path.name path) ∧
      ((∀ c ∈ Path.directory path, c = '/') ∨ 0 < count) := by
  have cut : path = (path.reverse.dropWhile (· != '/')).reverse ++ Path.name path := by
    rw [Path.name, ← List.reverse_append, List.takeWhile_append_dropWhile, List.reverse_reverse]
  obtain ⟨front, shape, _, ends⟩ := path_split path
  have start : (path.reverse.dropWhile (· != '/')).reverse = front :=
    List.append_cancel_right (cut.symm.trans shape)
  rw [Path.directory, start]
  split
  · next all =>
    exact ⟨0, shape, .inl fun c member => by simpa using List.all_eq_true.mp all c member⟩
  · next some =>
    rcases ends with rfl | ⟨more, rfl⟩
    · exact absurd rfl some
    · -- the slashes in front of the name are those at the end of `more` and one behind it
      have stripped : ((more ++ ['/']).reverse.dropWhile (· == '/')).reverse =
          (more.reverse.dropWhile (· == '/')).reverse := by simp
      obtain ⟨count, slashes⟩ : ∃ count, more =
          (more.reverse.dropWhile (· == '/')).reverse ++ List.replicate count '/' := by
        refine ⟨(more.reverse.takeWhile (· == '/')).length, ?_⟩
        have run : more.reverse.takeWhile (· == '/') =
            List.replicate (more.reverse.takeWhile (· == '/')).length '/' :=
          List.eq_replicate_iff.mpr ⟨rfl, fun c member => by simpa using List.mem_takeWhile_imp member⟩
        rw [← List.reverse_replicate, ← run, ← List.reverse_append, List.takeWhile_append_dropWhile,
          List.reverse_reverse]
      refine ⟨count + 1, ?_, .inr (Nat.succ_pos count)⟩
      rw [stripped, List.replicate_succ', ← List.append_assoc, ← List.append_assoc, ← slashes]
      exact shape

theorem directory_front (path : Text) : ∃ back, path = Path.directory path ++ back ∧
    ((∀ c ∈ Path.directory path, c = '/') ∨ ∃ more, back = '/' :: more) := by
  obtain ⟨count, shape, ends⟩ := directory_split path
  refine ⟨_, shape, ends.imp_right fun some => ?_⟩
  obtain ⟨count, rfl⟩ := Nat.exists_eq_succ_of_ne_zero (Nat.ne_of_gt some)
  exact ⟨_, rfl⟩

theorem Standing.directory (stands : Standing tree path) (named : Path.directory path ≠ []) :
    Standing tree (Path.directory path) := by
  obtain ⟨back, shape, root | ⟨more, rfl⟩⟩ := directory_front path
  · exact stands_root tree named root
  · rw [shape] at stands
    exact stands.front named

/-! ## Errors of the system -/

theorem locate_system_error {cause : FileCause} (failed : tree.locate path = .error cause)
    (clean : '\x00' ∉ path) : cause.systemError?.isSome = true := by
  obtain ⟨_, nul⟩ | ⟨_, rfl | rfl | rfl⟩ := locate_error failed
  · exact absurd nul clean
  all_goals rfl

theorem lookup_error {cause : FileCause} (failed : tree.lookup path = .error cause) :
    cause = .nulInPath ∨ cause = .noEntry ∨ cause = .notDirectory ∨ cause = .nameTooLong := by
  rw [lookup] at failed
  split at failed
  · next other unfound =>
    rw [← Except.error.inj failed]
    exact (locate_error unfound).imp And.left And.right
  · split at failed
    · exact .inr (.inl (Except.error.inj failed).symm)
    · simp at failed

theorem new_place_system_error {cause : FileCause} (failed : tree.newPlace path = .error cause)
    (clean : '\x00' ∉ path) : cause.systemError?.isSome = true := by
  rw [newPlace] at failed
  split at failed
  · rw [← Except.error.inj failed]
    rfl
  · refine locate_system_error failed fun nul => ?_
    by_cases named : path = []
    · rw [named] at nul
      exact absurd nul (by decide)
    · obtain ⟨_, count, shape⟩ := end_slashes_split named
      exact clean (shape ▸ List.mem_append_left _ nul)

/-- Nothing but a NUL character in its path keeps a directory from being made without an error of the system. -/
theorem make_directory_error {error : FileError} (failed : tree.makeDirectory path = .error error)
    (clean : '\x00' ∉ path) : error.isSystemError = true := by
  obtain ⟨cause, found, rfl⟩ | ⟨_, _, _, _, rfl⟩ := make_directory_error_iff.mp failed
  · exact new_place_system_error found clean
  · rfl

theorem file_place_system_error {cause : FileCause} (failed : tree.filePlace path = .error cause)
    (clean : '\x00' ∉ path) : cause.systemError?.isSome = true := by
  rw [filePlace] at failed
  split at failed
  · next other unfound =>
    rw [← Except.error.inj failed]
    exact new_place_system_error unfound clean
  · split at failed
    · rw [← Except.error.inj failed]
      rfl
    all_goals
      split at failed
      · rw [← Except.error.inj failed]
        rfl
      · simp at failed

theorem write_error {error : FileError} {content : Text} (failed : tree.write path content = .error error)
    (clean : '\x00' ∉ path) : error.isSystemError = true := by
  rw [write] at failed
  split at failed
  · next cause nowhere =>
    rw [← Except.error.inj failed]
    exact file_place_system_error nowhere clean
  · simp at failed

theorem read_error {error : FileError} (failed : tree.read path = .error error) (clean : '\x00' ∉ path) :
    error.isSystemError = true := by
  rw [read, lookup] at failed
  cases found : tree.locate path with
  | error cause =>
      rw [found] at failed
      rw [← Except.error.inj failed]
      exact locate_system_error found clean
  | ok place =>
      rw [found] at failed
      dsimp only at failed
      cases here : tree.entry? place with
      | none =>
          rw [here] at failed
          rw [← Except.error.inj failed]
          rfl
      | some entry =>
          rw [here] at failed
          cases entry with
          | file content => simp at failed
          | directory =>
              rw [← Except.error.inj failed]
              rfl

/-- A directory that was made is there. -/
theorem make_directory_there {made : FileTree} (done : tree.makeDirectory path = .ok made) :
    made.isDirectory path = true := by
  obtain ⟨place, found, fresh, rfl⟩ := make_directory_iff.mp done
  have way := (extends_set_directory fresh).grows.locate (locate_of_new_place found)
  refine is_directory_iff_stands.mpr ⟨new_place_short found, stands_of_end_slashes way ?_ ?_⟩
  · rw [entry_set (@ne_nil_of_entry_ne tree place (by simp [fresh])), if_pos rfl]
  · rintro rfl
    exact (locate_iff.mp (locate_of_new_place found)).2.1 rfl

end FileTree

namespace FileJob

open FileTree

variable {tree later made : FileTree} {path : Text}

theorem parent_begins (path : Text) : (parentAndName path).1 <+: path := by
  have front (path : Text) : Path.directory path <+: path := by
    obtain ⟨back, shape, _⟩ := directory_front path
    exact ⟨back, shape.symm⟩
  unfold parentAndName
  split
  · exact (front _).trans (front path)
  · exact front path

/-- What holds of the directory of each path holds of the parent of a path. -/
theorem holds_of_parent {Holds : Text → Prop}
    (inner : ∀ path, Holds path → Path.directory path ≠ [] → Holds (Path.directory path)) (holds : Holds path)
    (named : (parentAndName path).1 ≠ []) : Holds (parentAndName path).1 := by
  unfold parentAndName at named ⊢
  split at named
  · next slash =>
    rw [if_pos slash]
    have visible : Path.directory path ≠ [] := by
      intro empty
      rw [empty] at named
      exact named rfl
    exact inner _ (inner path holds visible) named
  · next whole =>
    rw [if_neg whole]
    exact inner path holds named

theorem stands_parent (stands : Standing tree path) (named : (parentAndName path).1 ≠ []) :
    Standing tree (parentAndName path).1 :=
  holds_of_parent (fun _ stands => stands.directory) stands named

/-- Where the parent of a directory that is there is not found, its path is too long. -/
theorem parent_too_long (stands : Standing tree path) (missing : lacksParent path tree = true) :
    pathLimit < byteLength (parentAndName path).1 := by
  simp only [lacksParent, Bool.and_eq_true, Bool.not_eq_true', List.isEmpty_eq_false_iff] at missing
  obtain ⟨⟨⟨_, named⟩, _⟩, gone⟩ := missing
  by_contra short
  have there := is_directory_iff_stands.mpr ⟨Nat.le_of_not_lt short, stands_parent stands named⟩
  obtain ⟨place, found, directory⟩ := is_directory_iff.mp there
  rw [has_entry_iff.mpr ⟨place, _, found, directory⟩] at gone
  simp at gone

/-- A directory that is there is made without any effect. -/
theorem make_standing (stands : Standing tree path) (short : byteLength path ≤ pathLimit) :
    ((makeDirectories path).run tree).run = (.ok (), tree) := by
  have there := is_directory_iff_stands.mpr ⟨short, stands⟩
  obtain ⟨place, found, directory⟩ := is_directory_iff.mp there
  obtain ⟨error, taken⟩ := make_directory_taken (locate_without_end_slashes found) directory
  have present : ¬ lacksParent path tree = true := by
    intro missing
    have long := parent_too_long stands missing
    have bound := byte_length_le (parent_begins path)
    omega
  rw [run_make_directories, if_neg present, run_make_last_failed taken, if_pos there]

/-- A directory whose path is too long is not made. -/
theorem make_standing_long (stands : Standing tree path) (long : pathLimit < byteLength path) :
    ∃ error : FileError, error.cause = .nameTooLong ∧
      ((makeDirectories path).run tree).run = (.error error, tree) := by
  induction size : path.length using Nat.strong_induction_on generalizing path with
  | _ size ih =>
      by_cases missing : lacksParent path tree = true
      · obtain ⟨error, cause, run⟩ := ih _ (size ▸ lacks_parent_shorter missing)
          (stands_parent stands (lacks_parent_named missing)) (parent_too_long stands missing) rfl
        exact ⟨error, cause, run_of_failed_parent missing run (by simp [cause])⟩
      · have failed : tree.makeDirectory path = .error ⟨.nameTooLong, path⟩ := by
          rw [FileTree.makeDirectory, newPlace, locate_too_long stands.clean long]
        have absent : tree.isDirectory path = false := by
          rw [FileTree.isDirectory, lookup, locate_too_long stands.clean long]
        refine ⟨⟨.nameTooLong, path⟩, rfl, ?_⟩
        rw [run_make_directories, if_neg missing, run_make_last_failed failed, absent]
        rfl

/-- Making a directory whose path has a NUL character is never passed over. -/
theorem clean_of_passed (passed : isPassed ((makeDirectories path).run tree).run.1 = true) : '\x00' ∉ path := by
  have last {path : Text} {tree : FileTree} (passed : isPassed ((makeLast path).run tree).run.1 = true) :
      '\x00' ∉ path := by
    obtain ⟨_, _, found, _⟩ := entry_of_make_last passed
    exact fun nul => (locate_iff.mp found).1 (nul_without_end_slashes nul)
  induction size : path.length using Nat.strong_induction_on generalizing path with
  | _ size ih =>
      by_cases missing : lacksParent path tree = true
      · obtain ⟨through, run⟩ := passed_parent missing passed
        by_cases dot : (parentAndName path).2 = ".".toList
        · have parent := ih _ (size ▸ lacks_parent_shorter missing) through rfl
          have same := parent_and_name_eq (show (parentAndName path).2 ≠ [] by simp [dot])
          obtain ⟨count, shape, _⟩ := directory_split (withoutEndSlashes path)
          rw [same] at parent dot
          change Path.name (withoutEndSlashes path) = ".".toList at dot
          rw [dot] at shape
          intro nul
          have member := nul_without_end_slashes nul
          rw [shape, List.mem_append, List.mem_append] at member
          rcases member with front | slash | name
          · exact parent front
          · exact absurd (List.eq_of_mem_replicate slash) (by decide)
          · exact absurd name (by decide)
        · rw [run, if_neg dot] at passed
          exact last passed
      · rw [run_make_directories, if_neg missing] at passed
        exact last passed

end FileJob

end Wikidown
