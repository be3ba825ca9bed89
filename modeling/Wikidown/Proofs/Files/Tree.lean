import Wikidown.Files.Tree
import Wikidown.Proofs.Text.Lines

/-!
# Trees of files

Operations on files only add to a tree: what was a directory stays one, and what was a file stays a file.
So a path that leads to a place keeps leading to it, and the place is known by the path alone.
-/

namespace Wikidown

set_option autoImplicit false

namespace FileTree

variable {tree later last : FileTree} {place other here : Place} {entry : FileEntry} {path : Text}
  {names : List Text}

/-! ## Entries -/

theorem lookup_set_entry (entries : List (Place × FileEntry)) (place other : Place) (entry : FileEntry) :
    (setEntry place entry entries).lookup other =
      if other = place then some entry else entries.lookup other := by
  induction entries with
  | nil =>
      by_cases same : other = place
      · simp [setEntry, same]
      · simp [setEntry, same, List.lookup_cons, beq_eq_false_iff_ne.mpr same]
  | cons first rest ih =>
      obtain ⟨known, old⟩ := first
      by_cases here : known = place
      · subst here
        by_cases same : other = known
        · simp [setEntry, same]
        · simp [setEntry, same, List.lookup_cons, beq_eq_false_iff_ne.mpr same]
      · by_cases same : other = known
        · subst same
          simp [setEntry, here]
        · simp [setEntry, here, List.lookup_cons, beq_eq_false_iff_ne.mpr same, ih]

theorem entry_set (inner : place ≠ []) (entry : FileEntry) (other : Place) :
    entry? (tree.set place entry) other = if other = place then some entry else tree.entry? other := by
  unfold entry?
  by_cases root : other = []
  · subst root
    simp [Ne.symm inner]
  · simp [root, set, lookup_set_entry]

theorem entry_root (tree : FileTree) : tree.entry? [] = some .directory := rfl

theorem ne_nil_of_entry_ne (other : tree.entry? place ≠ some .directory) : place ≠ [] := by
  rintro rfl
  exact other tree.entry_root

/-! ## Growth -/

/-- A tree that has grown out of another one: the directories are still there, and a file is where one
was. -/
structure Grows (tree later : FileTree) : Prop where
  current : later.current = tree.current
  directory : ∀ place, tree.entry? place = some .directory → later.entry? place = some .directory
  file : ∀ place content, tree.entry? place = some (.file content) →
    ∃ changed, later.entry? place = some (.file changed)

theorem Grows.refl (tree : FileTree) : Grows tree tree :=
  ⟨rfl, fun _ same => same, fun _ content same => ⟨content, same⟩⟩

theorem Grows.trans (first : Grows tree later) (second : Grows later last) : Grows tree last where
  current := second.current.trans first.current
  directory place here := second.directory place (first.directory place here)
  file place content here := by
    obtain ⟨changed, there⟩ := first.file place content here
    exact second.file place changed there

theorem grows_set_file (other : tree.entry? place ≠ some .directory) (content : Content) :
    Grows tree (tree.set place (.file content)) where
  current := rfl
  directory at' here := by
    rw [entry_set (ne_nil_of_entry_ne other), if_neg (by rintro rfl; exact other here), here]
  file at' known here := by
    rw [entry_set (ne_nil_of_entry_ne other)]
    split
    · exact ⟨content, rfl⟩
    · exact ⟨known, here⟩

/-- A tree with the entries of another one and perhaps more directories. -/
structure Extends (tree later : FileTree) : Prop where
  current : later.current = tree.current
  entry : ∀ place, later.entry? place = tree.entry? place ∨
    tree.entry? place = none ∧ later.entry? place = some .directory

theorem Extends.refl (tree : FileTree) : Extends tree tree := ⟨rfl, fun _ => .inl rfl⟩

theorem Extends.trans (first : Extends tree later) (second : Extends later last) : Extends tree last where
  current := second.current.trans first.current
  entry place := by
    rcases first.entry place with same | ⟨none, made⟩ <;> rcases second.entry place with kept | ⟨free, added⟩
    · exact .inl (kept.trans same)
    · exact .inr ⟨same ▸ free, added⟩
    · exact .inr ⟨none, kept.trans made⟩
    · exact absurd (made.symm.trans free) (by simp)

theorem Extends.kept (more : Extends tree later) (here : tree.entry? place = some entry) :
    later.entry? place = some entry := by
  rcases more.entry place with same | ⟨none, _⟩
  · exact same.trans here
  · exact absurd (none.symm.trans here) (by simp)

theorem Extends.grows (more : Extends tree later) : Grows tree later :=
  ⟨more.current, fun _ => more.kept, fun _ content here => ⟨content, more.kept here⟩⟩

theorem extends_set_directory (fresh : tree.entry? place = none) :
    Extends tree (tree.set place .directory) where
  current := rfl
  entry known := by
    rw [entry_set (@ne_nil_of_entry_ne tree place (by simp [fresh]))]
    split
    · next same => exact .inr ⟨same ▸ fresh, rfl⟩
    · exact .inl rfl

/-! ## Ways -/

theorem walk_cons_iff {name : Text} : tree.walk here (name :: names) = .ok place ↔
    tree.entry? here = some .directory ∧ byteLength name ≤ nameLimit ∧
      tree.walk (stepTo here name) names = .ok place := by
  rw [walk]
  split
  · next none => simp [none]
  · next content file => simp [file]
  · next directory =>
      split
      · next long => simp [directory, Nat.not_le.mpr long]
      · next short => simp [directory, Nat.not_lt.mp short]

theorem walk_place (found : tree.walk here names = .ok place) : place = names.foldl stepTo here := by
  induction names generalizing here with
  | nil => exact (Except.ok.inj found).symm
  | cons name names ih => exact ih (walk_cons_iff.mp found).2.2

theorem Grows.walk (grows : Grows tree later) (found : tree.walk here names = .ok place) :
    later.walk here names = .ok place := by
  induction names generalizing here with
  | nil => exact found
  | cons name names ih =>
      obtain ⟨directory, short, behind⟩ := walk_cons_iff.mp found
      exact walk_cons_iff.mpr ⟨grows.directory here directory, short, ih behind⟩

theorem walk_append_iff {front back : List Text} : tree.walk here (front ++ back) = .ok place ↔
    ∃ between, tree.walk here front = .ok between ∧ tree.walk between back = .ok place := by
  induction front generalizing here with
  | nil => simp [walk]
  | cons name front ih =>
      rw [List.cons_append, walk_cons_iff, ih]
      simp only [walk_cons_iff]
      constructor
      · rintro ⟨directory, short, between, first, second⟩
        exact ⟨between, ⟨directory, short, first⟩, second⟩
      · rintro ⟨between, ⟨directory, short, first⟩, second⟩
        exact ⟨directory, short, between, first, second⟩

/-- Where the way of a path starts. -/
def start (current : Place) (path : Text) : Place := if startsWith "/".toList path then [] else current

theorem locate_iff : tree.locate path = .ok place ↔
    '\x00' ∉ path ∧ path ≠ [] ∧ byteLength path ≤ pathLimit ∧
      tree.walk (start tree.current path) (pieces '/' path) = .ok place := by
  rw [locate]
  by_cases nul : '\x00' ∈ path
  · simp [nul]
  · by_cases empty : path = []
    · simp [empty]
    · by_cases long : pathLimit < byteLength path
      · simp [nul, empty, long, Nat.not_le.mpr long]
      · simp [nul, empty, long, Nat.not_lt.mp long, start]

theorem walk_error {cause : FileCause} (failed : tree.walk here names = .error cause) :
    cause = .noEntry ∨ cause = .notDirectory ∨ cause = .nameTooLong := by
  induction names generalizing here with
  | nil => simp [walk] at failed
  | cons name names ih =>
      rw [walk] at failed
      split at failed
      · exact .inl (Except.error.inj failed).symm
      · exact .inr (.inl (Except.error.inj failed).symm)
      · split at failed
        · exact .inr (.inr (Except.error.inj failed).symm)
        · exact ih failed

/-- Why a path leads nowhere. -/
theorem locate_error {cause : FileCause} (failed : tree.locate path = .error cause) :
    cause = .nulInPath ∧ '\x00' ∈ path ∨
      '\x00' ∉ path ∧ (cause = .noEntry ∨ cause = .notDirectory ∨ cause = .nameTooLong) := by
  rw [locate] at failed
  split at failed
  · next nul => exact .inl ⟨(Except.error.inj failed).symm, by simpa using nul⟩
  · next clean =>
    refine .inr ⟨by simpa using clean, ?_⟩
    split at failed
    · exact .inl (Except.error.inj failed).symm
    · split at failed
      · exact .inr (.inr (Except.error.inj failed).symm)
      · exact walk_error failed

theorem Grows.locate (grows : Grows tree later) (found : tree.locate path = .ok place) :
    later.locate path = .ok place := by
  obtain ⟨nul, nonempty, short, way⟩ := locate_iff.mp found
  exact locate_iff.mpr ⟨nul, nonempty, short, grows.current ▸ grows.walk way⟩

/-- The place of a path by its names alone. -/
def placeNamed (current : Place) (path : Text) : Place := (pieces '/' path).foldl stepTo (start current path)

theorem locate_place (found : tree.locate path = .ok place) : place = placeNamed tree.current path :=
  walk_place (locate_iff.mp found).2.2.2

theorem start_cons (current : Place) (c : Char) (text : Text) :
    start current (c :: text) = if c = '/' then [] else current := by
  by_cases slash : c = '/'
  · subst slash
    rfl
  · have other : startsWith "/".toList (c :: text) = false := by
      simp [startsWith, after?, Ne.symm slash]
    rw [start, other, if_neg slash]
    rfl

theorem step_to_name {name : Text} (proper : name ≠ [] ∧ name ≠ ".".toList ∧ name ≠ "..".toList)
    (here : Place) : stepTo here name = here ++ [name] := by
  obtain ⟨nonempty, dot, dots⟩ := proper
  rw [stepTo, if_neg (by simpa [nonempty] using dot), if_neg dots]

theorem start_append (current : Place) {front : Text} (some : front ≠ []) (back : Text) :
    start current (front ++ back) = start current front := by
  obtain ⟨c, front, rfl⟩ := List.exists_cons_of_ne_nil some
  rw [List.cons_append, start_cons, start_cons]

theorem place_named_slash (current : Place) (front back : Text) :
    placeNamed current (front ++ '/' :: back) =
      (pieces '/' back).foldl stepTo (placeNamed current (front ++ ['/'])) := by
  have same : start current (front ++ '/' :: back) = start current (front ++ ['/']) := by
    rw [← List.singleton_append, ← List.append_assoc]
    exact start_append current (by simp) back
  rw [placeNamed, placeNamed, same, pieces_append_separator, pieces_append_separator, List.foldl_append,
    List.foldl_append]
  rfl

theorem place_named_end_slash (current : Place) {path : Text} (some : path ≠ []) :
    placeNamed current (path ++ ['/']) = placeNamed current path := by
  rw [placeNamed, pieces_append_separator, start_append current some, List.foldl_append]
  rfl

/-- A name in a directory leads to the entry of that name in the place of the directory. -/
theorem place_named_join {name : Text} (whole : '/' ∉ name)
    (proper : name ≠ [] ∧ name ≠ ".".toList ∧ name ≠ "..".toList) (current : Place) (directory : Text) :
    placeNamed current (Path.join directory name) = placeNamed current directory ++ [name] := by
  have single (here : Place) : (pieces '/' name).foldl stepTo here = here ++ [name] := by
    rw [pieces_of_whole whole]
    exact step_to_name proper here
  have relative : startsWith "/".toList name = false := by
    obtain ⟨c, more, rfl⟩ := List.exists_cons_of_ne_nil proper.1
    have other : '/' ≠ c := by
      rintro rfl
      exact whole (by simp)
    simp [startsWith, after?, other]
  rw [Path.join, relative, if_neg Bool.false_ne_true]
  by_cases empty : directory = []
  · have fromHere : start current name = current := by rw [start, relative]; rfl
    rw [empty]
    change placeNamed current name = _
    rw [placeNamed, fromHere, single]
    rfl
  · cases closed : endsWith "/".toList directory with
    | true =>
        obtain ⟨front, found⟩ := Option.isSome_iff_exists.mp closed
        obtain rfl := before_eq_some.mp found
        rw [if_pos (by simp), List.append_assoc]
        exact (place_named_slash current front name).trans (single _)
    | false =>
        rw [if_neg (by simpa using empty), place_named_slash, single, place_named_end_slash current empty]

/-! ## Reading and writing -/

theorem read_iff {content : Content} : tree.read path = .ok content ↔
    ∃ place, tree.locate path = .ok place ∧ tree.entry? place = some (.file content) := by
  rw [read, lookup]
  cases found : tree.locate path with
  | error cause => simp
  | ok place =>
      dsimp only
      cases here : tree.entry? place with
      | none => simp [here]
      | some entry => cases entry <;> simp [here]

theorem is_directory_iff : tree.isDirectory path = true ↔
    ∃ place, tree.locate path = .ok place ∧ tree.entry? place = some .directory := by
  rw [isDirectory, lookup]
  cases found : tree.locate path with
  | error cause => simp
  | ok place =>
      dsimp only
      cases here : tree.entry? place with
      | none => simp [here]
      | some entry => cases entry <;> simp [here]

theorem has_entry_iff : tree.hasEntry path = true ↔
    ∃ place entry, tree.locate path = .ok place ∧ tree.entry? place = some entry := by
  rw [hasEntry, lookup]
  cases found : tree.locate path with
  | error cause => simp [Except.isOk, Except.toBool]
  | ok place =>
      dsimp only
      cases here : tree.entry? place with
      | none => simp [Except.isOk, Except.toBool, here]
      | some entry => simp [Except.isOk, Except.toBool, here]

theorem Grows.kept_entry (grows : Grows tree later) (here : tree.entry? place = some entry) :
    ∃ entry, later.entry? place = some entry := by
  cases entry with
  | directory => exact ⟨_, grows.directory place here⟩
  | file content =>
      obtain ⟨changed, there⟩ := grows.file place content here
      exact ⟨_, there⟩

theorem Grows.has_entry (grows : Grows tree later) (there : tree.hasEntry path = true) :
    later.hasEntry path = true := by
  obtain ⟨place, _, found, here⟩ := has_entry_iff.mp there
  obtain ⟨entry, same⟩ := grows.kept_entry here
  exact has_entry_iff.mpr ⟨place, entry, grows.locate found, same⟩

theorem Extends.read {content : Content} (more : Extends tree later) (found : tree.read path = .ok content) :
    later.read path = .ok content := by
  obtain ⟨place, way, here⟩ := read_iff.mp found
  exact read_iff.mpr ⟨place, more.grows.locate way, more.kept here⟩

theorem without_end_slashes_of_open (opened : endsWith "/".toList path = false) :
    withoutEndSlashes path = path := by
  rcases List.eq_nil_or_concat path with rfl | ⟨front, last, rfl⟩
  · rfl
  · rw [List.concat_eq_append] at opened ⊢
    have other : last ≠ '/' := by
      rintro rfl
      have closed : before? "/".toList (front ++ ['/']) = some front := before_eq_some.mpr rfl
      rw [endsWith, closed] at opened
      exact absurd opened (by simp)
    simp [withoutEndSlashes, other]

/-- A place is found for a new entry where the path without the slashes at its end leads. -/
theorem locate_of_new_place (found : tree.newPlace path = .ok place) :
    tree.locate (withoutEndSlashes path) = .ok place := by
  unfold newPlace at found
  split at found
  · simp at found
  · exact found

theorem new_place_of_open (opened : endsWith "/".toList path = false) : tree.newPlace path = tree.locate path := by
  rw [newPlace, without_end_slashes_of_open opened]
  split
  · next long => rw [long]
  · rfl

theorem write_iff {content : Text} : tree.write path content = .ok later ↔
    endsWith "/".toList path = false ∧ ∃ place, tree.locate path = .ok place ∧
      tree.entry? place ≠ some .directory ∧ later = tree.set place (.file (.text content)) := by
  rw [write, filePlace]
  cases ends : endsWith "/".toList path with
  | true =>
      cases tree.newPlace path with
      | error cause => simp
      | ok place =>
          dsimp only
          cases tree.entry? place with
          | none => simp
          | some entry => cases entry <;> simp
  | false =>
      rw [new_place_of_open ends]
      cases found : tree.locate path with
      | error cause => simp
      | ok place =>
          dsimp only
          cases here : tree.entry? place with
          | none => simp [here, eq_comm]
          | some entry => cases entry <;> simp [here, eq_comm]

theorem write_grows {content : Text} (written : tree.write path content = .ok later) : Grows tree later := by
  obtain ⟨_, place, _, other, rfl⟩ := write_iff.mp written
  exact grows_set_file other _

/-- What was written is read back. -/
theorem read_of_write {content : Text} (written : tree.write path content = .ok later) :
    later.read path = .ok (.text content) := by
  have grows := write_grows written
  obtain ⟨_, place, way, other, rfl⟩ := write_iff.mp written
  refine read_iff.mpr ⟨place, grows.locate way, ?_⟩
  rw [entry_set (ne_nil_of_entry_ne other), if_pos rfl]

/-- Writing to another place leaves a file as it is. -/
theorem read_of_write_elsewhere {elsewhere text : Text} {content : Content}
    (written : tree.write elsewhere text = .ok later) (found : tree.read path = .ok content)
    (apart : placeNamed tree.current path ≠ placeNamed tree.current elsewhere) :
    later.read path = .ok content := by
  have grows := write_grows written
  obtain ⟨_, place, way, other, rfl⟩ := write_iff.mp written
  obtain ⟨known, wayToo, here⟩ := read_iff.mp found
  refine read_iff.mpr ⟨known, grows.locate wayToo, ?_⟩
  rw [entry_set (ne_nil_of_entry_ne other), if_neg, here]
  rintro rfl
  exact apart ((locate_place wayToo).symm.trans (locate_place way))

/-- Behind a slash there is a directory, so the path of a file does not end with one. -/
theorem path_open_of_read {content : Content} (found : tree.read path = .ok content) :
    endsWith "/".toList path = false := by
  cases closed : endsWith "/".toList path with
  | false => rfl
  | true =>
      obtain ⟨front, ends⟩ := Option.isSome_iff_exists.mp closed
      obtain ⟨place, located, here⟩ := read_iff.mp found
      have way := (locate_iff.mp located).2.2.2
      rw [before_eq_some.mp ends] at way
      change tree.walk _ (pieces '/' (front ++ '/' :: [])) = _ at way
      rw [pieces_append_separator, walk_append_iff] at way
      obtain ⟨between, -, last⟩ := way
      obtain ⟨directory, -, same⟩ := walk_cons_iff.mp last
      obtain rfl : between = place := Except.ok.inj same
      rw [here] at directory
      exact absurd directory (by simp)

/-- A file that is there can be written. -/
theorem write_of_read {content : Content} (found : tree.read path = .ok content) (text : Text) :
    ∃ later, tree.write path text = .ok later := by
  obtain ⟨place, way, here⟩ := read_iff.mp found
  exact ⟨_, write_iff.mpr ⟨path_open_of_read found, place, way, by simp [here], rfl⟩⟩

/-! ## Files written again -/

/-- Trees of the same files and directories, where files may hold something else. -/
structure Alike (tree later : FileTree) : Prop where
  current : later.current = tree.current
  entry : ∀ place, later.entry? place = tree.entry? place ∨
    ∃ content other, tree.entry? place = some (.file content) ∧ later.entry? place = some (.file other)

/-- Where ways lead, and where they end, is the same in trees that are alike. -/
theorem Alike.walk (alike : Alike tree later) (here : Place) (names : List Text) :
    later.walk here names = tree.walk here names := by
  induction names generalizing here with
  | nil => rfl
  | cons name names ih =>
      rw [FileTree.walk, FileTree.walk]
      rcases alike.entry here with same | ⟨content, other, file, fileToo⟩
      · rw [same]
        simp only [ih]
      · rw [file, fileToo]

theorem Alike.locate (alike : Alike tree later) (path : Text) : later.locate path = tree.locate path := by
  rw [FileTree.locate, FileTree.locate, alike.current]
  simp only [alike.walk]

/-- Writing to a file that is there changes nothing elsewhere, not even why a file is not read. -/
theorem read_of_write_again {elsewhere text : Text} {content : Content}
    (found : tree.read elsewhere = .ok content) (written : tree.write elsewhere text = .ok later)
    (apart : placeNamed tree.current path ≠ placeNamed tree.current elsewhere) :
    later.read path = tree.read path := by
  obtain ⟨place, way, here⟩ := read_iff.mp found
  obtain ⟨_, placeToo, wayToo, other, rfl⟩ := write_iff.mp written
  obtain rfl : place = placeToo := Except.ok.inj (way.symm.trans wayToo)
  have inner := ne_nil_of_entry_ne other
  have alike : Alike tree (tree.set place (.file (.text text))) := by
    refine ⟨rfl, fun known => ?_⟩
    rw [entry_set inner]
    split
    · next same => exact .inr ⟨content, _, same ▸ here, rfl⟩
    · exact .inl rfl
  rw [read, read, lookup, lookup, alike.locate]
  cases located : tree.locate path with
  | error cause => rfl
  | ok known =>
      have distinct : known ≠ place := fun same =>
        apart ((locate_place located).symm.trans (same.trans (locate_place way)))
      dsimp only
      rw [entry_set inner, if_neg distinct]

end FileTree

end Wikidown
