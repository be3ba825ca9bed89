import Mathlib.Data.List.TakeWhile
import Wikidown.Files.Directory
import Wikidown.Proofs.Files.Tree
import Wikidown.Proofs.Session

/-!
# Making directories

Making a directory with those on the way to it adds directories and changes nothing else, and once it has
succeeded it adds none when it is done again.
-/

namespace Wikidown

set_option autoImplicit false

namespace FileTree

variable {tree : FileTree} {path : Text}

/-! ## The ends of paths -/

theorem path_split (path : Text) : ∃ front, path = front ++ Path.name path ∧ '/' ∉ Path.name path ∧
    (front = [] ∨ ∃ more, front = more ++ ['/']) := by
  refine ⟨(path.reverse.dropWhile (· != '/')).reverse, ?_, ?_, ?_⟩
  · rw [Path.name, ← List.reverse_append, List.takeWhile_append_dropWhile, List.reverse_reverse]
  · intro member
    have other := List.mem_takeWhile_imp (List.mem_reverse.mp member)
    simp at other
  · cases shape : path.reverse.dropWhile (· != '/') with
    | nil => exact .inl rfl
    | cons c more =>
        have slash : c = '/' := by
          have stops := List.head?_dropWhile_not (· != '/') path.reverse
          rw [shape] at stops
          simpa using stops
        exact .inr ⟨more.reverse, by simp [slash]⟩

theorem last_piece (path : Text) : ∃ front, pieces '/' path = front ++ [Path.name path] := by
  obtain ⟨front, shape, whole, ends⟩ := path_split path
  rcases ends with rfl | ⟨more, rfl⟩
  · refine ⟨[], ?_⟩
    rw [List.nil_append] at shape
    rw [← shape] at whole ⊢
    rw [pieces_of_whole whole]
    rfl
  · refine ⟨pieces '/' more, ?_⟩
    have same : pieces '/' path = pieces '/' (more ++ '/' :: Path.name path) := by
      rw [← List.singleton_append, ← List.append_assoc, ← shape]
    rw [same, pieces_append_separator, pieces_of_whole whole]

theorem end_slashes_split (nonempty : path ≠ []) :
    withoutEndSlashes path ≠ [] ∧ ∃ count, path = withoutEndSlashes path ++ List.replicate count '/' := by
  have cut : path = (path.reverse.dropWhile (· == '/')).reverse ++
      (path.reverse.takeWhile (· == '/')).reverse := by
    rw [← List.reverse_append, List.takeWhile_append_dropWhile, List.reverse_reverse]
  have slashes : (path.reverse.takeWhile (· == '/')).reverse =
      List.replicate (path.reverse.takeWhile (· == '/')).length '/' := by
    rw [List.eq_replicate_iff, List.length_reverse]
    refine ⟨rfl, fun c member => ?_⟩
    simpa using List.mem_takeWhile_imp (List.mem_reverse.mp member)
  rw [slashes] at cut
  unfold withoutEndSlashes
  split
  · next empty =>
      rw [empty, List.nil_append] at cut
      generalize (path.reverse.takeWhile (· == '/')).length = count at cut
      subst cut
      cases count with
      | zero => simp at nonempty
      | succ count => exact ⟨by simp [List.replicate_succ], count, by simp [List.replicate_succ]⟩
  · next visible => exact ⟨visible, _, cut⟩

theorem pieces_end_slashes (path : Text) (count : Nat) :
    pieces '/' (path ++ List.replicate count '/') = pieces '/' path ++ List.replicate count [] := by
  induction count with
  | zero => simp
  | succ count ih =>
      rw [List.replicate_succ', ← List.append_assoc, pieces_append_separator, ih, List.append_assoc,
        List.replicate_succ']
      rfl

theorem fold_empty_names (count : Nat) (here : Place) :
    (List.replicate count ([] : Text)).foldl stepTo here = here := by
  induction count with
  | zero => rfl
  | succ count ih => exact ih

/-- Without the slashes at its end a path leads to the same place. -/
theorem locate_without_end_slashes {place : Place} (found : tree.locate path = .ok place) :
    tree.locate (withoutEndSlashes path) = .ok place := by
  obtain ⟨nul, nonempty, short, way⟩ := locate_iff.mp found
  obtain ⟨visible, count, shape⟩ := end_slashes_split nonempty
  rw [shape, start_append _ visible, pieces_end_slashes, walk_append_iff] at way
  obtain ⟨between, front, slashes⟩ := way
  have same : place = between := by
    rw [walk_place slashes, fold_empty_names]
  refine locate_iff.mpr ⟨?_, visible, ?_, same ▸ front⟩
  · intro member
    rw [shape] at nul
    exact nul (List.mem_append_left _ member)
  · refine Nat.le_trans ?_ short
    have size := congrArg byteLength shape
    rw [byteLength, byteLength, String.ofList_append, String.utf8ByteSize_append] at size
    rw [byteLength, byteLength, size]
    exact Nat.le_add_right _ _

/-- A path without a name at its end is in the directory that is left without the slashes there. -/
theorem directory_of_no_name (slash : Path.name path = []) : Path.directory path =
    if path.all (· == '/') then path else (path.reverse.dropWhile (· == '/')).reverse := by
  have start : (path.reverse.dropWhile (· != '/')).reverse = path := by
    have none : path.reverse.takeWhile (· != '/') = [] := List.reverse_eq_nil_iff.mp slash
    have cut := @List.takeWhile_append_dropWhile _ (· != '/') path.reverse
    rw [none, List.nil_append] at cut
    rw [cut, List.reverse_reverse]
  rw [Path.directory, start]

/-- The parent and the name of a path are those of the path without the slashes at its end. -/
theorem parent_and_name_eq (named : (FileJob.parentAndName path).2 ≠ []) :
    FileJob.parentAndName path =
      (Path.directory (withoutEndSlashes path), Path.name (withoutEndSlashes path)) := by
  obtain ⟨front, shape, whole, ends⟩ := path_split path
  unfold FileJob.parentAndName at named ⊢
  by_cases slash : Path.name path = []
  · rw [if_pos (by simpa using slash)] at named ⊢
    have same : withoutEndSlashes path = Path.directory path := by
      change Path.name (Path.directory path) ≠ [] at named
      rw [directory_of_no_name slash] at named ⊢
      split at named
      · exact absurd slash named
      · next some =>
        rw [if_neg some, withoutEndSlashes]
        split
        · next empty =>
            refine absurd ?_ some
            rw [List.reverse_eq_nil_iff, List.dropWhile_eq_nil_iff] at empty
            exact List.all_eq_true.mpr fun c member => empty c (List.mem_reverse.mpr member)
        · rfl
    rw [same]
  · rw [if_neg (by simpa using slash)]
    have opened : endsWith "/".toList path = false := by
      by_contra closed
      have ends : endsWith "/".toList path = true := by simpa using closed
      obtain ⟨before, found⟩ := Option.isSome_iff_exists.mp ends
      have last := congrArg List.getLast? (before_eq_some.mp found)
      rw [shape, List.getLast?_append_of_ne_nil _ slash, List.getLast?_append_of_ne_nil _ (by simp)] at last
      exact whole (List.mem_of_getLast? last)
    rw [without_end_slashes_of_open opened]

/-- The name at the end of a path is the last of its pieces but for those of slashes. -/
theorem last_piece_of_name (named : (FileJob.parentAndName path).2 ≠ []) :
    ∃ front, pieces '/' (withoutEndSlashes path) = front ++ [(FileJob.parentAndName path).2] := by
  rw [parent_and_name_eq named]
  exact last_piece (withoutEndSlashes path)

/-! ## Making one directory -/

theorem make_directory_iff {made : FileTree} : tree.makeDirectory path = .ok made ↔
    ∃ place, tree.newPlace path = .ok place ∧ tree.entry? place = none ∧ made = tree.set place .directory := by
  rw [makeDirectory]
  cases tree.newPlace path with
  | error cause => simp
  | ok place => cases here : tree.entry? place <;> simp [here, eq_comm]

/-- Making a directory fails where there is no place for it and where something stands in its place. -/
theorem make_directory_error_iff {error : FileError} : tree.makeDirectory path = .error error ↔
    (∃ cause, tree.newPlace path = .error cause ∧ error = ⟨cause, path⟩) ∨
      ∃ place entry, tree.newPlace path = .ok place ∧ tree.entry? place = some entry ∧
        error = ⟨.entryExists, path⟩ := by
  rw [makeDirectory]
  cases tree.newPlace path with
  | error cause => simp [eq_comm]
  | ok place => cases here : tree.entry? place <;> simp [here, eq_comm]

end FileTree

namespace FileJob

open FileTree

variable {tree later made : FileTree} {path : Text} {result : Except FileError Unit}

/-- The last step of making a directory. -/
def makeLast (path : Text) : FileJob Unit := unlessDirectory path (change (·.makeDirectory path))

/-- Whether the directory that a path stands in has to be made first. -/
def lacksParent (path : Text) (tree : FileTree) : Bool :=
  decide ((parentAndName path).1.length < path.length) && !(parentAndName path).1.isEmpty &&
    !(parentAndName path).2.isEmpty && !tree.hasEntry (parentAndName path).1

/-- A failure that the steps after it pass over. -/
def isPassed (result : Except FileError Unit) : Bool :=
  match result with
  | .ok () => true
  | .error error => error.cause = .entryExists

theorem run_change (operation : FileTree → Except FileError FileTree) (tree : FileTree) :
    ((change operation).run tree).run =
      match operation tree with
      | .ok later => (.ok (), later)
      | .error error => (.error error, tree) := by
  change ((match operation tree with
    | .ok later => (set later : FileJob Unit)
    | .error error => throw error).run tree).run = _
  cases operation tree <;> rfl

theorem run_make_last (path : Text) (tree : FileTree) :
    ((makeLast path).run tree).run =
      match tree.makeDirectory path with
      | .ok made => (.ok (), made)
      | .error error => if tree.isDirectory path then (.ok (), tree) else (.error error, tree) := by
  rw [makeLast, unlessDirectory, run_try_catch, run_change]
  cases tree.makeDirectory path with
  | ok made => rfl
  | error error =>
      change ((if tree.isDirectory path = true then (pure () : FileJob Unit) else throw error).run tree).run = _
      cases tree.isDirectory path <;> rfl

theorem run_make_last_failed {error : FileError} (failed : tree.makeDirectory path = .error error) :
    ((makeLast path).run tree).run =
      (if tree.isDirectory path then .ok () else .error error, tree) := by
  rw [run_make_last, failed]
  dsimp only
  split <;> rfl

theorem run_make_directories (path : Text) (tree : FileTree) :
    ((makeDirectories path).run tree).run =
      if lacksParent path tree then
        match ((makeDirectories (parentAndName path).1).run tree).run with
        | (result, made) =>
            if !isPassed result then (result, made)
            else if (parentAndName path).2 = ".".toList then (.ok (), made)
            else ((makeLast path).run made).run
      else ((makeLast path).run tree).run := by
  have look (next : FileTree → FileJob Unit) :
      (((get : FileJob FileTree) >>= next).run tree).run = ((next tree).run tree).run := rfl
  rw [makeDirectories, lacksParent]
  rcases parentAndName path with ⟨parent, name⟩
  dsimp only
  by_cases shorter : parent.length < path.length
  · rw [dif_pos shorter, look, decide_eq_true shorter, Bool.true_and]
    split
    · rw [run_bind, run_try_catch]
      rcases ((makeDirectories parent).run tree).run with ⟨error | _, made⟩
      · by_cases passed : error.cause = .entryExists
        · have known : isPassed (.error error) = true := decide_eq_true passed
          simp only [known, if_pos passed]
          change ((if name = ".".toList then (pure () : FileJob Unit) else makeLast path).run made).run = _
          split <;> rfl
        · have known : isPassed (.error error) = false := decide_eq_false passed
          simp only [known, if_neg passed]
          rfl
      · change ((if name = ".".toList then (pure () : FileJob Unit) else makeLast path).run made).run = _
        split <;> rfl
    · rfl
  · rw [dif_neg shorter, decide_eq_false shorter]
    rfl

/-! ## What is added -/

theorem make_directory_extends (done : tree.makeDirectory path = .ok made) :
    ∃ place, tree.locate (withoutEndSlashes path) = .ok place ∧ tree.entry? place = none ∧
      made = tree.set place .directory := by
  obtain ⟨place, found, fresh, same⟩ := make_directory_iff.mp done
  exact ⟨place, locate_of_new_place found, fresh, same⟩

theorem make_last_extends (path : Text) (tree : FileTree) :
    Extends tree ((makeLast path).run tree).run.2 := by
  cases done : tree.makeDirectory path with
  | ok made =>
      obtain ⟨place, _, fresh, rfl⟩ := make_directory_extends done
      rw [run_make_last, done]
      exact extends_set_directory fresh
  | error error =>
      rw [run_make_last_failed done]
      exact .refl tree

theorem lacks_parent_named (missing : lacksParent path tree = true) : (parentAndName path).1 ≠ [] := by
  intro empty
  simp [lacksParent, empty] at missing

/-- Where the parent is missing and cannot be made, the directory is not made either. -/
theorem run_of_failed_parent {error : FileError} (missing : lacksParent path tree = true)
    (failed : ((makeDirectories (parentAndName path).1).run tree).run = (.error error, made))
    (other : error.cause ≠ .entryExists) : ((makeDirectories path).run tree).run = (.error error, made) := by
  have unpassed : isPassed (.error error) = false := decide_eq_false other
  rw [run_make_directories, if_pos missing, failed]
  dsimp only
  rw [unpassed]
  rfl

theorem lacks_parent_shorter (missing : lacksParent path tree = true) :
    (parentAndName path).1.length < path.length := by
  simp only [lacksParent, Bool.and_eq_true, decide_eq_true_eq] at missing
  exact missing.1.1.1

/-- Whether it succeeds or fails, making a directory adds directories and changes nothing else. -/
theorem make_directories_extends (path : Text) (tree : FileTree) :
    Extends tree ((makeDirectories path).run tree).run.2 := by
  induction size : path.length using Nat.strong_induction_on generalizing path tree with
  | _ size ih =>
      rw [run_make_directories]
      by_cases missing : lacksParent path tree = true
      · have first := ih _ (size ▸ lacks_parent_shorter missing) (parentAndName path).1 tree rfl
        rw [if_pos missing]
        dsimp only
        split
        · exact first
        · split
          · exact first
          · exact first.trans (make_last_extends path _)
      · rw [if_neg missing]
        exact make_last_extends path tree

/-! ## Making a directory again -/

/-- A directory cannot be made where something stands. -/
theorem make_directory_taken {place : Place} {entry : FileEntry}
    (found : tree.locate (withoutEndSlashes path) = .ok place) (here : tree.entry? place = some entry) :
    ∃ error, tree.makeDirectory path = .error error := by
  cases done : tree.makeDirectory path with
  | error error => exact ⟨error, rfl⟩
  | ok made =>
      obtain ⟨other, there, fresh, -⟩ := make_directory_extends done
      obtain rfl : place = other := Except.ok.inj (found.symm.trans there)
      rw [fresh] at here
      exact absurd here (by simp)

/-- The directory at a path that ends with the name for the same directory cannot be made. -/
theorem make_directory_dot (dot : (parentAndName path).2 = ".".toList) (tree : FileTree) :
    ∃ error, tree.makeDirectory path = .error error := by
  cases done : tree.makeDirectory path with
  | error error => exact ⟨error, rfl⟩
  | ok made =>
      obtain ⟨place, found, fresh, _⟩ := make_directory_extends done
      obtain ⟨front, shape⟩ := last_piece_of_name (show (parentAndName path).2 ≠ [] by simp [dot])
      rw [dot] at shape
      obtain ⟨_, _, _, way⟩ := locate_iff.mp found
      rw [shape, walk_append_iff] at way
      obtain ⟨between, _, last⟩ := way
      obtain ⟨directory, _, same⟩ := walk_cons_iff.mp last
      obtain rfl : between = place := Except.ok.inj same
      rw [fresh] at directory
      exact absurd directory (by simp)

theorem make_last_kept {error : FileError} (failed : tree.makeDirectory path = .error error) :
    ((makeLast path).run tree).run.2 = tree := by
  rw [run_make_last_failed failed]

theorem locate_ne_entry_exists (path : Text) (tree : FileTree) : tree.locate path ≠ .error .entryExists := by
  intro failed
  obtain ⟨same, _⟩ | ⟨_, same | same | same⟩ := locate_error failed <;> simp at same

theorem new_place_ne_entry_exists (path : Text) (tree : FileTree) : tree.newPlace path ≠ .error .entryExists := by
  rw [newPlace]
  split
  · simp
  · exact locate_ne_entry_exists _ tree

/-- Where making a directory fails because of what stands in its place, something stands there. -/
theorem entry_of_make_directory_error {error : FileError} (failed : tree.makeDirectory path = .error error)
    (stands : error.cause = .entryExists) :
    ∃ place entry, tree.locate (withoutEndSlashes path) = .ok place ∧ tree.entry? place = some entry := by
  obtain ⟨cause, found, rfl⟩ | ⟨place, entry, found, here, -⟩ := make_directory_error_iff.mp failed
  · dsimp only at stands
    exact absurd (stands ▸ found) (new_place_ne_entry_exists path tree)
  · exact ⟨place, entry, locate_of_new_place found, here⟩

/-- Where the last directory of a path was made, or could not be made because of what stands there, something
stands in its place. -/
theorem entry_of_make_last (passed : isPassed ((makeLast path).run tree).run.1 = true) :
    ∃ place entry, ((makeLast path).run tree).run.2.locate (withoutEndSlashes path) = .ok place ∧
      entry? ((makeLast path).run tree).run.2 place = some entry := by
  rw [run_make_last] at passed ⊢
  cases done : tree.makeDirectory path with
  | ok made =>
      obtain ⟨place, found, fresh, rfl⟩ := make_directory_extends done
      refine ⟨place, .directory, (extends_set_directory fresh).grows.locate found, ?_⟩
      rw [entry_set (@ne_nil_of_entry_ne tree place (by simp [fresh])), if_pos rfl]
  | error error =>
      rw [done] at passed
      dsimp only at passed ⊢
      cases there : tree.isDirectory path with
      | true =>
          obtain ⟨place, found, here⟩ := is_directory_iff.mp there
          exact ⟨place, .directory, locate_without_end_slashes found, here⟩
      | false =>
          rw [there] at passed
          exact entry_of_make_directory_error done (of_decide_eq_true passed)

/-- A directory that was made, or could not be made because of what stands there, is not made again. -/
theorem make_last_again (passed : isPassed ((makeLast path).run tree).run.1 = true)
    (grows : Grows ((makeLast path).run tree).run.2 later) : ((makeLast path).run later).run.2 = later := by
  obtain ⟨place, entry, found, here⟩ := entry_of_make_last passed
  obtain ⟨entry, same⟩ := grows.kept_entry here
  obtain ⟨error, failed⟩ := make_directory_taken (grows.locate found) same
  exact make_last_kept failed

/-- Where the parent is missing and making the directory passes, the parent has been made on the way. -/
theorem passed_parent (missing : lacksParent path tree = true)
    (passed : isPassed ((makeDirectories path).run tree).run.1 = true) :
    isPassed ((makeDirectories (parentAndName path).1).run tree).run.1 = true ∧
      ((makeDirectories path).run tree).run =
        if (parentAndName path).2 = ".".toList then
          (.ok (), ((makeDirectories (parentAndName path).1).run tree).run.2)
        else ((makeLast path).run ((makeDirectories (parentAndName path).1).run tree).run.2).run := by
  rw [run_make_directories path tree, if_pos missing] at passed ⊢
  dsimp only at passed ⊢
  cases through : isPassed ((makeDirectories (parentAndName path).1).run tree).run.1 with
  | true => exact ⟨rfl, if_neg (by simp)⟩
  | false =>
      rw [through, if_pos (by simp)] at passed
      rw [through] at passed
      exact absurd passed (by simp)

theorem make_last_after (passed : isPassed ((makeDirectories path).run tree).run.1 = true)
    (grows : Grows ((makeDirectories path).run tree).run.2 later) :
    ((makeLast path).run later).run.2 = later := by
  by_cases missing : lacksParent path tree = true
  · obtain ⟨-, run⟩ := passed_parent missing passed
    rw [run] at passed grows
    by_cases dot : (parentAndName path).2 = ".".toList
    · obtain ⟨error, failed⟩ := make_directory_dot dot later
      exact make_last_kept failed
    · rw [if_neg dot] at passed grows
      exact make_last_again passed grows
  · rw [run_make_directories, if_neg missing] at passed grows
    exact make_last_again passed grows

theorem lacks_parent_before (grows : Grows tree later) (missing : lacksParent path later = true) :
    lacksParent path tree = true := by
  simp only [lacksParent, Bool.and_eq_true, Bool.not_eq_true'] at missing ⊢
  refine ⟨missing.1, ?_⟩
  by_contra there
  have entry := grows.has_entry (by simpa using there)
  rw [missing.2] at entry
  exact absurd entry (by simp)

/-- Once making a directory has succeeded, or failed only because something stands in its place, it changes
nothing any more. -/
theorem make_directories_again (path : Text) (tree : FileTree)
    (passed : isPassed ((makeDirectories path).run tree).run.1 = true)
    (grows : Grows ((makeDirectories path).run tree).run.2 later) :
    ((makeDirectories path).run later).run.2 = later := by
  induction size : path.length using Nat.strong_induction_on generalizing path tree with
  | _ size ih =>
      have last := make_last_after passed grows
      rw [run_make_directories path later]
      by_cases missing : lacksParent path later = true
      · have missingToo := lacks_parent_before ((make_directories_extends path tree).grows.trans grows) missing
        obtain ⟨through, run⟩ := passed_parent missingToo passed
        have parentGrows : Grows ((makeDirectories (parentAndName path).1).run tree).run.2 later := by
          rw [run] at grows
          split at grows
          · exact grows
          · exact (make_last_extends path _).grows.trans grows
        have parent := ih _ (size ▸ lacks_parent_shorter missing) (parentAndName path).1 tree through
          parentGrows rfl
        rw [if_pos missing]
        dsimp only
        rw [parent]
        split
        · rfl
        · split
          · rfl
          · exact last
      · rw [if_neg missing]
        exact last

end FileJob

end Wikidown
