import Wikidown.Proofs.Files.Parents

/-!
# Directories that can be made

A directory is made, with those on the way to it, wherever no file stands on the way and its names and path are short
enough, and nowhere else unless its path ends with the name for the same directory. If the directory before that name
has to be made, neither a file that stands in its place nor the length of the whole path is looked at.
-/

namespace Wikidown

set_option autoImplicit false

namespace FileTree

variable {tree later : FileTree} {place here : Place} {path : Text} {names : List Text}

/-! ## Ways without files -/

/-- A way on which no file stands, also at its end, and no name is too long. -/
def Passable (tree : FileTree) (here : Place) : List Text → Prop
  | [] => ∀ content, tree.entry? here ≠ some (.file content)
  | name :: names => (∀ content, tree.entry? here ≠ some (.file content)) ∧ byteLength name ≤ nameLimit ∧
      tree.Passable (stepTo here name) names

theorem Passable.starts (passable : Passable tree here names) (content : Content) :
    tree.entry? here ≠ some (.file content) := by
  cases names with
  | nil => exact passable content
  | cons name names => exact passable.1 content

theorem passable_append {front back : List Text} : Passable tree here (front ++ back) ↔
    Passable tree here front ∧ Passable tree (front.foldl stepTo here) back := by
  induction front generalizing here with
  | nil => exact (and_iff_right_of_imp Passable.starts).symm
  | cons name front ih =>
      rw [List.cons_append, Passable, Passable, ih, and_assoc, and_assoc]
      rfl

theorem Extends.file_iff (more : Extends tree later) (content : Content) :
    later.entry? place = some (.file content) ↔ tree.entry? place = some (.file content) := by
  rcases more.entry place with same | ⟨none, made⟩
  · rw [same]
  · rw [none, made]
    simp

theorem Extends.passable_iff (more : Extends tree later) : Passable later here names ↔ Passable tree here names := by
  induction names generalizing here with
  | nil => simp only [Passable, ne_eq, more.file_iff]
  | cons name names ih => simp only [Passable, ne_eq, more.file_iff, ih]

/-- A way to a directory has no file on it. -/
theorem passable_of_walk (found : tree.walk here names = .ok place) (directory : tree.entry? place = some .directory) :
    Passable tree here names := by
  induction names generalizing here with
  | nil =>
      obtain rfl := Except.ok.inj found
      simp [Passable, directory]
  | cons name names ih =>
      obtain ⟨inside, short, rest⟩ := walk_cons_iff.mp found
      exact ⟨by simp [inside], short, ih rest⟩

/-- On a way without files, only an entry that is not there stops one. -/
theorem Passable.walk_error {cause : FileCause} (passable : Passable tree here names)
    (failed : tree.walk here names = .error cause) : cause = .noEntry := by
  induction names generalizing here with
  | nil => simp [walk] at failed
  | cons name names ih =>
      obtain ⟨free, short, rest⟩ := passable
      rw [walk] at failed
      split at failed
      · exact (Except.error.inj failed).symm
      · next content file => exact absurd file (free content)
      · rw [if_neg (Nat.not_lt.mpr short)] at failed
        exact ih rest failed

/-! ## Paths to directories that can be made -/

/-- A path at which a directory can be made, or is there: the directory it starts from is there, no file stands on
its way or in its place, and neither the path nor one of its names is too long. -/
structure Makeable (tree : FileTree) (path : Text) : Prop where
  clean : '\x00' ∉ path
  named : path ≠ []
  short : byteLength path ≤ pathLimit
  rooted : tree.entry? (start tree.current path) = some .directory
  passable : Passable tree (start tree.current path) (pieces '/' path)

theorem Standing.makeable (stands : Standing tree path) (short : byteLength path ≤ pathLimit) :
    Makeable tree path := by
  obtain ⟨clean, named, place, way, directory⟩ := stands
  exact ⟨clean, named, short, walk_starts_in_directory way directory, passable_of_walk way directory⟩

theorem Makeable.extends (makeable : Makeable tree path) (more : Extends tree later) : Makeable later path := by
  obtain ⟨clean, named, short, rooted, passable⟩ := makeable
  rw [← more.current] at rooted passable
  exact ⟨clean, named, short, more.kept rooted, more.passable_iff.mpr passable⟩

theorem Makeable.front {front back : Text} (makeable : Makeable tree (front ++ '/' :: back)) (named : front ≠ []) :
    Makeable tree front := by
  obtain ⟨clean, _, short, rooted, passable⟩ := makeable
  rw [start_append _ named] at rooted passable
  rw [pieces_append_separator, passable_append] at passable
  exact ⟨fun member => clean (List.mem_append_left _ member), named,
    (byte_length_le (List.prefix_append front _)).trans short, rooted, passable.1⟩

theorem Makeable.locate_error {cause : FileCause} (makeable : Makeable tree path)
    (failed : tree.locate path = .error cause) : cause = .noEntry := by
  rw [locate, if_neg (by simpa using makeable.clean), if_neg (by simpa using makeable.named),
    if_neg (Nat.not_lt.mpr makeable.short)] at failed
  exact makeable.passable.walk_error failed

theorem Makeable.place_free (makeable : Makeable tree path) (found : tree.locate path = .ok place)
    (content : Content) : tree.entry? place ≠ some (.file content) := by
  have ends := makeable.passable
  rw [← List.append_nil (pieces '/' path), passable_append] at ends
  rw [locate_place found]
  exact ends.2 content

/-- Where something stands at such a path, it is a directory. -/
theorem Makeable.stands (makeable : Makeable tree path) (there : tree.hasEntry path = true) : Standing tree path := by
  obtain ⟨place, entry, found, here⟩ := has_entry_iff.mp there
  cases entry with
  | directory => exact (is_directory_iff_stands.mp (is_directory_iff.mpr ⟨place, found, here⟩)).2
  | file content => exact absurd here (makeable.place_free found content)

theorem Makeable.without_end_slashes (makeable : Makeable tree path) : Makeable tree (withoutEndSlashes path) := by
  obtain ⟨visible, count, shape⟩ := end_slashes_split makeable.named
  cases count with
  | zero =>
      rw [List.replicate_zero, List.append_nil] at shape
      rwa [← shape]
  | succ count =>
      rw [shape, List.replicate_succ] at makeable
      exact makeable.front visible

theorem Makeable.directory (makeable : Makeable tree path) (named : Path.directory path ≠ []) :
    Makeable tree (Path.directory path) := by
  obtain ⟨back, shape, root | ⟨more, rfl⟩⟩ := directory_front path
  · have begins : Path.directory path <+: path := ⟨back, shape.symm⟩
    exact (stands_root tree named root).makeable ((byte_length_le begins).trans makeable.short)
  · rw [shape] at makeable
    exact makeable.front named

/-- Where the directory that a path stands in is there, the way ahead of the last name is open. -/
theorem walk_to_name (rooted : tree.entry? (start tree.current path) = some .directory)
    (parent : Path.directory path ≠ [] → Standing tree (Path.directory path)) :
    ∃ front here, pieces '/' path = front ++ [Path.name path] ∧
      tree.walk (start tree.current path) front = .ok here ∧ tree.entry? here = some .directory := by
  obtain ⟨count, shape, ends⟩ := directory_split path
  obtain ⟨_, _, whole, _⟩ := path_split path
  have name : pieces '/' (Path.name path) = [Path.name path] := pieces_of_whole whole
  by_cases slashes : ∀ c ∈ Path.directory path, c = '/'
  · have run : Path.directory path = List.replicate (Path.directory path).length '/' :=
      List.eq_replicate_iff.mpr ⟨rfl, slashes⟩
    refine ⟨List.replicate ((Path.directory path).length + count) [], start tree.current path, ?_,
      walk_slashes rooted _, rooted⟩
    rw [← name, ← pieces_front_slashes, ← List.replicate_append_replicate, ← run, List.append_assoc, ← shape]
  · have visible : Path.directory path ≠ [] := by
      intro empty
      simp [empty] at slashes
    obtain ⟨count, rfl⟩ := Nat.exists_eq_succ_of_ne_zero (Nat.ne_of_gt (ends.resolve_left slashes))
    obtain ⟨_, _, here, way, directory⟩ := parent visible
    have same : start tree.current path = start tree.current (Path.directory path) := by
      conv_lhs => rw [shape]
      exact start_append _ visible _
    refine ⟨pieces '/' (Path.directory path) ++ List.replicate count [], here, ?_, ?_, directory⟩
    · conv_lhs => rw [shape]
      rw [List.replicate_succ, List.cons_append, pieces_append_separator, pieces_front_slashes, name,
        List.append_assoc]
    · rw [same]
      exact walk_append_iff.mpr ⟨here, way, walk_slashes directory count⟩

end FileTree

namespace FileJob

open FileTree

variable {tree made : FileTree} {path : Text}

/-! ## Making them -/

theorem makeable_parent (makeable : Makeable tree path) (named : (parentAndName path).1 ≠ []) :
    Makeable tree (parentAndName path).1 :=
  holds_of_parent (fun _ makeable => makeable.directory) makeable named

theorem new_place_of_makeable (makeable : Makeable tree path) :
    tree.newPlace path = tree.locate (withoutEndSlashes path) := by
  rw [newPlace]
  split
  · next long => exact absurd (makeable.locate_error long) (by decide)
  · rfl

/-- Where the directory that a path stands in is there, the path leads to a place in it. -/
theorem locate_of_parent (makeable : Makeable tree path) (named : (parentAndName path).2 ≠ [])
    (parent : (parentAndName path).1 ≠ [] → Standing tree (parentAndName path).1) :
    ∃ here, tree.entry? here = some .directory ∧
      tree.locate (withoutEndSlashes path) = .ok (stepTo here (parentAndName path).2) := by
  have bare := makeable.without_end_slashes
  rw [parent_and_name_eq named] at parent ⊢
  obtain ⟨front, here, split, way, directory⟩ := walk_to_name bare.rooted parent
  have passable := bare.passable
  rw [split, passable_append] at passable
  refine ⟨here, directory, locate_iff.mpr ⟨bare.clean, bare.named, bare.short, ?_⟩⟩
  rw [split, walk_append_iff]
  exact ⟨here, way, walk_cons_iff.mpr ⟨directory, passable.2.2.1, rfl⟩⟩

theorem make_last_of_parent (makeable : Makeable tree path) (named : (parentAndName path).2 ≠ [])
    (parent : (parentAndName path).1 ≠ [] → Standing tree (parentAndName path).1) :
    ∃ made, ((makeLast path).run tree).run = (.ok (), made) ∧ Standing made path := by
  obtain ⟨inner, _, found⟩ := locate_of_parent makeable named parent
  have placed := (new_place_of_makeable makeable).trans found
  rw [run_make_last]
  cases here : tree.entry? (stepTo inner (parentAndName path).2) with
  | none =>
      have making : tree.makeDirectory path = .ok (tree.set (stepTo inner (parentAndName path).2) .directory) :=
        make_directory_iff.mpr ⟨_, placed, here, rfl⟩
      rw [making]
      exact ⟨_, rfl, (is_directory_iff_stands.mp (make_directory_there making)).2⟩
  | some entry =>
      cases entry with
      | file content => exact absurd here (makeable.without_end_slashes.place_free found content)
      | directory =>
          have making : tree.makeDirectory path = .error ⟨.entryExists, path⟩ :=
            make_directory_error_iff.mpr (.inr ⟨_, _, placed, here, rfl⟩)
          have stands := stands_of_end_slashes found here makeable.named
          rw [making]
          dsimp only
          rw [if_pos (is_directory_iff_stands.mpr ⟨makeable.short, stands⟩)]
          exact ⟨tree, rfl, stands⟩

theorem slashes_of_no_name (none : (parentAndName path).2 = []) : ∀ c ∈ path, c = '/' := by
  unfold parentAndName at none
  split at none
  · next slash =>
    change Path.name (Path.directory path) = [] at none
    rw [directory_of_no_name (List.isEmpty_iff.mp slash)] at none
    split at none
    · next all => exact fun c member => by simpa using List.all_eq_true.mp all c member
    · cases rest : path.reverse.dropWhile (· == '/') with
      | nil =>
          intro c member
          simpa using List.dropWhile_eq_nil_iff.mp rest c (List.mem_reverse.mpr member)
      | cons c more =>
          have visible := List.head?_dropWhile_not (· == '/') path.reverse
          rw [rest] at visible none
          rw [Path.name, List.reverse_reverse,
            List.takeWhile_cons_of_pos (by simpa using visible)] at none
          simp at none
  · next whole => exact absurd none (by simpa using whole)

theorem parent_shorter (named : (parentAndName path).2 ≠ []) : (parentAndName path).1.length < path.length := by
  have nonempty : path ≠ [] := by
    rintro rfl
    exact named rfl
  obtain ⟨_, slashes, whole⟩ := end_slashes_split nonempty
  obtain ⟨count, bare, _⟩ := directory_split (withoutEndSlashes path)
  have size := congrArg List.length whole
  have bareSize := congrArg List.length bare
  have same := parent_and_name_eq named
  rw [same] at named
  have some : 0 < (Path.name (withoutEndSlashes path)).length := List.length_pos_iff.mpr named
  rw [List.length_append] at size
  rw [List.length_append, List.length_append] at bareSize
  rw [same]
  change (Path.directory (withoutEndSlashes path)).length < path.length
  omega

/-- A directory is made wherever it can be. -/
theorem make_makeable (makeable : Makeable tree path) :
    ∃ made, ((makeDirectories path).run tree).run = (.ok (), made) ∧ Standing made path := by
  induction size : path.length using Nat.strong_induction_on generalizing path with
  | _ size ih =>
      by_cases none : (parentAndName path).2 = []
      · have stands := stands_root tree makeable.named (slashes_of_no_name none)
        exact ⟨tree, make_standing stands makeable.short, stands⟩
      · rw [run_make_directories]
        by_cases missing : lacksParent path tree = true
        · obtain ⟨made, run, stands⟩ := ih _ (size ▸ parent_shorter none)
            (makeable_parent makeable (lacks_parent_named missing)) rfl
          have more := make_directories_extends (parentAndName path).1 tree
          rw [run] at more
          rw [if_pos missing, run]
          change ∃ final, (if (parentAndName path).2 = ".".toList then ((.ok (), made) : Except FileError Unit × FileTree)
            else ((makeLast path).run made).run) = (.ok (), final) ∧ Standing final path
          by_cases dot : (parentAndName path).2 = ".".toList
          · -- nothing is left to make: the path leads to the parent
            obtain ⟨here, directory, found⟩ := locate_of_parent (makeable.extends more) none fun _ => stands
            rw [dot] at found
            rw [if_pos dot]
            exact ⟨made, rfl, stands_of_end_slashes found directory makeable.named⟩
          · rw [if_neg dot]
            exact make_last_of_parent (makeable.extends more) none fun _ => stands
        · rw [if_neg missing]
          refine make_last_of_parent makeable none fun visible => (makeable_parent makeable visible).stands ?_
          simpa [lacksParent, parent_shorter none, visible, none] using missing

theorem start_without_end_slashes (visible : withoutEndSlashes path ≠ []) :
    start tree.current path = start tree.current (withoutEndSlashes path) := by
  have nonempty : path ≠ [] := by
    rintro rfl
    exact visible rfl
  obtain ⟨_, count, shape⟩ := end_slashes_split nonempty
  conv_lhs => rw [shape]
  exact start_append _ visible _

theorem new_place_of_unrooted (unrooted : tree.entry? (start tree.current path) ≠ some .directory) :
    ∃ cause, tree.newPlace path = .error cause := by
  cases placed : tree.newPlace path with
  | error cause => exact ⟨cause, rfl⟩
  | ok place =>
      obtain ⟨_, visible, _, way⟩ := locate_iff.mp (locate_of_new_place placed)
      obtain ⟨first, more, split⟩ := List.exists_cons_of_ne_nil (pieces_ne_nil '/' (withoutEndSlashes path))
      rw [split] at way
      have rooted := (walk_cons_iff.mp way).1
      rw [← start_without_end_slashes visible] at rooted
      exact absurd rooted unrooted

/-- Relative paths lead nowhere, not even to a new directory, where the one they start from is not there. -/
theorem make_unrooted (unrooted : tree.entry? (start tree.current path) ≠ some .directory) :
    ∃ error : FileError, error.cause ≠ .entryExists ∧
      ((makeDirectories path).run tree).run = (.error error, tree) := by
  induction size : path.length using Nat.strong_induction_on generalizing path with
  | _ size ih =>
      by_cases missing : lacksParent path tree = true
      · -- the parent starts from the same directory
        obtain ⟨back, shape⟩ := parent_begins path
        rw [← shape, start_append _ (lacks_parent_named missing)] at unrooted
        obtain ⟨error, other, run⟩ := ih _ (size ▸ lacks_parent_shorter missing) unrooted rfl
        exact ⟨error, other, run_of_failed_parent missing run other⟩
      · obtain ⟨cause, failed⟩ := new_place_of_unrooted unrooted
        have other : cause ≠ .entryExists := fun same => new_place_ne_entry_exists path tree (same ▸ failed)
        have unmade : tree.makeDirectory path = .error ⟨cause, path⟩ :=
          make_directory_error_iff.mpr (.inl ⟨cause, failed, rfl⟩)
        have nowhere : ¬ tree.isDirectory path = true := by
          intro there
          obtain ⟨_, _, place, way, directory⟩ := (is_directory_iff_stands.mp there).2
          exact unrooted (walk_starts_in_directory way directory)
        refine ⟨⟨cause, path⟩, other, ?_⟩
        rw [run_make_directories, if_neg missing, run_make_last_failed unmade, if_neg nowhere]

theorem make_last_there (done : ((makeLast path).run tree).run = (.ok (), made)) : made.isDirectory path = true := by
  rw [run_make_last] at done
  split at done
  · next there =>
    rw [← (Prod.mk.inj done).2]
    exact make_directory_there there
  · split at done
    · next there =>
      rw [← (Prod.mk.inj done).2]
      exact there
    · simp at done

/-- No directory is made but where it can be, unless its path ends with the name for the same directory. -/
theorem makeable_of_made (proper : (parentAndName path).2 ≠ ".".toList)
    (done : ((makeDirectories path).run tree).run = (.ok (), made)) : Makeable tree path := by
  have rooted : tree.entry? (start tree.current path) = some .directory := by
    by_contra unrooted
    obtain ⟨error, _, failed⟩ := make_unrooted unrooted
    rw [done] at failed
    simp at failed
  have there : made.isDirectory path = true := by
    by_cases missing : lacksParent path tree = true
    · have through := (passed_parent missing (by rw [done]; rfl)).2
      rw [done, if_neg proper] at through
      exact make_last_there through.symm
    · rw [run_make_directories, if_neg missing] at done
      exact make_last_there done
  obtain ⟨short, stands⟩ := is_directory_iff_stands.mp there
  have more := make_directories_extends path tree
  rw [done] at more
  have passable := (stands.makeable short).passable
  rw [more.current, more.passable_iff] at passable
  exact ⟨stands.clean, stands.named, short, rooted, passable⟩

/-- A file goes unnoticed ahead of the name for the same directory, if another directory has to be made first. -/
example : ((makeDirectories "d/../f/.".toList).run { entries := [(["f".toList], .file (.text []))] }).run.1 =
    .ok () := by
  decide +kernel

end FileJob

end Wikidown
